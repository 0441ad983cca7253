import Mathlib

/-!
# Computations that can fail

How a computation in `Except` fails or succeeds that is put together from others: one after the
other, or one for each item of a list.

## Key results

- `faultOf_bind`, `bind_eq_error_iff`: the fault of two steps is that of the first one that fails
- `mapM_eq_error_iff`: going through a list fails at the first item that fails
- `mapM_eq_ok_iff`, `forM_eq_ok_iff`: it succeeds if every item does
-/

namespace SecretScan

/-- The fault of a computation, if it has one. -/
def faultOf {ε α : Type} : Except ε α → Option ε
  | .ok _ => none
  | .error e => some e

/-- A fault is the error that ends a computation. -/
theorem faultOf_eq_some_iff {ε α : Type} {x : Except ε α} {e : ε} :
    faultOf x = some e ↔ x = .error e := by
  cases x <;> simp [faultOf]

/-- Without a fault there is a result. -/
theorem faultOf_eq_none_iff {ε α : Type} {x : Except ε α} :
    faultOf x = none ↔ ∃ a, x = .ok a := by
  cases x <;> simp [faultOf]

/-- A result stays when errors are translated. -/
@[simp] theorem mapError_ok {ε ε' α : Type} (f : ε → ε') (a : α) :
    (.ok a : Except ε α).mapError f = .ok a :=
  rfl

/-- An error is translated. -/
@[simp] theorem mapError_error {ε ε' α : Type} (f : ε → ε') (e : ε) :
    (.error e : Except ε α).mapError f = .error (f e) :=
  rfl

/-- A step that succeeds hands its result on. -/
theorem ok_bind {ε α β : Type} (a : α) (f : α → Except ε β) :
    ((.ok a : Except ε α) >>= f) = f a :=
  rfl

/-- The first answer is that of the first item, or else of the others. -/
theorem findSome?_cons_eq_or {α β : Type} (f : α → Option β) (a : α) (l : List α) :
    (a :: l).findSome? f = (f a).or (l.findSome? f) := by
  cases h : f a <;> simp [h]

/-- The fault of a computation in two steps is that of the first, or else that of the second. -/
theorem faultOf_bind {ε α β : Type} {x : Except ε α} {f : α → Except ε β} {first rest : Option ε}
    (hx : faultOf x = first) (hf : ∀ a, faultOf (f a) = rest) :
    faultOf (x >>= f) = first.or rest := by
  subst hx
  cases x with
  | error e => rfl
  | ok a => exact hf a

/-- What is done with a result makes no difference to the fault. -/
theorem faultOf_map {ε α β : Type} (f : α → β) (x : Except ε α) :
    faultOf (f <$> x) = faultOf x := by
  cases x <;> rfl

/-- A computation in two steps fails at the first of them or at the second. -/
theorem bind_eq_error_iff {ε α β : Type} {x : Except ε α} {f : α → Except ε β} {e : ε} :
    x >>= f = .error e ↔ x = .error e ∨ ∃ a, x = .ok a ∧ f a = .error e := by
  cases x with
  | error e' => simp [bind, Except.bind]
  | ok a => simp [bind, Except.bind]

/-- A computation that succeeds has succeeded at its first step. -/
theorem bind_eq_ok {ε α β : Type} {x : Except ε α} {f : α → Except ε β} {b : β}
    (h : x >>= f = .ok b) : ∃ a, x = .ok a ∧ f a = .ok b := by
  cases x with
  | error e => exact nomatch h
  | ok a => exact ⟨a, rfl, h⟩

/-- What a mapped result comes from. -/
theorem map_eq_ok {ε α β : Type} {f : α → β} {x : Except ε α} {b : β} (h : f <$> x = .ok b) :
    ∃ a, x = .ok a ∧ f a = b := by
  cases x with
  | error e => exact nomatch h
  | ok a => exact ⟨a, rfl, Except.ok.inj h⟩

/-- Translating errors neither makes nor loses results. -/
theorem mapError_eq_ok_iff {ε ε' α : Type} {f : ε → ε'} {x : Except ε α} {a : α} :
    x.mapError f = .ok a ↔ x = .ok a := by
  cases x <;> simp [Except.mapError]

/-- A translated error comes from an error. -/
theorem mapError_eq_error_iff {ε ε' α : Type} {f : ε → ε'} {x : Except ε α} {e : ε'} :
    x.mapError f = .error e ↔ ∃ e', x = .error e' ∧ e = f e' := by
  cases x <;> simp [Except.mapError, eq_comm]

/-- Going through a list fails at the first item that fails. -/
theorem mapM_eq_error_iff {ε α β : Type} {f : α → Except ε β} {l : List α} {e : ε} :
    l.mapM f = .error e ↔
      ∃ before a after, l = before ++ a :: after ∧ (∀ b ∈ before, ∃ c, f b = .ok c) ∧
        f a = .error e := by
  -- the induction is on the list: either its first item fails, or it succeeds and another one
  -- fails
  induction l with
  | nil => simp [pure, Except.pure]
  | cons a rest ih =>
    rw [List.mapM_cons, bind_eq_error_iff]
    constructor
    · rintro (ha | ⟨c, ha, hrest⟩)
      · exact ⟨[], a, rest, rfl, by simp, ha⟩
      · obtain hrest | ⟨_, _, hpure⟩ := bind_eq_error_iff.1 hrest
        · obtain ⟨before, b, after, rfl, hbefore, hb⟩ := ih.1 hrest
          refine ⟨a :: before, b, after, rfl, ?_, hb⟩
          intro x hx
          obtain rfl | hx := List.mem_cons.1 hx
          · exact ⟨c, ha⟩
          · exact hbefore x hx
        · exact nomatch hpure
    · -- the items before the failing one succeed, so the first of them is passed
      rintro ⟨before, b, after, hsplit, hbefore, hb⟩
      cases before with
      | nil =>
        obtain ⟨rfl, rfl⟩ := List.cons.inj hsplit
        exact .inl hb
      | cons x before =>
        obtain ⟨rfl, rfl⟩ := List.cons.inj hsplit
        obtain ⟨c, hc⟩ := hbefore a List.mem_cons_self
        refine .inr ⟨c, hc, bind_eq_error_iff.2 (.inl (ih.2 ?_))⟩
        exact ⟨before, b, after, rfl, fun y hy => hbefore y (List.mem_cons_of_mem _ hy), hb⟩

/-- Going through a list gives one outcome for each item, in the same order. -/
theorem mapM_eq_ok_iff {ε α β : Type} {f : α → Except ε β} {l : List α} {r : List β} :
    l.mapM f = .ok r ↔ List.Forall₂ (fun a b => f a = .ok b) l r := by
  -- the induction is on the list, for all results at once
  induction l generalizing r with
  | nil => simp [pure, Except.pure, eq_comm]
  | cons a rest ih =>
    rw [List.mapM_cons]
    constructor
    · intro h
      cases ha : f a with
      | error e => rw [ha] at h; exact nomatch h
      | ok b =>
        rw [ha, ok_bind] at h
        cases hrest : rest.mapM f with
        | error e => rw [hrest] at h; exact nomatch h
        | ok r' =>
          rw [hrest, ok_bind] at h
          obtain rfl := Except.ok.inj h
          exact .cons ha (ih.1 hrest)
    · intro h
      cases h with
      | cons ha hrest => rw [ha, ok_bind, ih.2 hrest, ok_bind]; rfl

/-- If each step succeeds, so do all of them together. -/
theorem exists_mapM_eq_ok {ε α β : Type} {f : α → Except ε β} {l : List α}
    (h : ∀ a ∈ l, ∃ b, f a = .ok b) : ∃ r, l.mapM f = .ok r := by
  cases hl : l.mapM f with
  | ok r => exact ⟨r, rfl⟩
  | error e =>
    obtain ⟨before, a, after, rfl, _, ha⟩ := mapM_eq_error_iff.1 hl
    obtain ⟨b, hb⟩ := h a (by simp)
    exact nomatch ha.symm.trans hb

/-- If all steps together succeed, so does each of them. -/
theorem exists_eq_ok_of_mapM {ε α β : Type} {f : α → Except ε β} {l : List α} {r : List β}
    (h : l.mapM f = .ok r) : ∀ a ∈ l, ∃ b, f a = .ok b := by
  have hitems := mapM_eq_ok_iff.1 h
  clear h
  induction hitems with
  | nil => simp
  | cons ha _ ih => exact List.forall_mem_cons.2 ⟨⟨_, ha⟩, ih⟩

/-- Items that come out alike one by one come out alike together. -/
theorem mapM_congr {ε α β : Type} {f : α → Except ε β} {l l' : List α}
    (h : List.Forall₂ (fun a a' => f a' = f a) l l') : l'.mapM f = l.mapM f := by
  induction h with
  | nil => rfl
  | cons ha _ ih => rw [List.mapM_cons, List.mapM_cons, ha, ih]

/-- All checks are passed if each of them is. -/
theorem forM_eq_ok_iff {ε α : Type} {f : α → Except ε Unit} {l : List α} :
    l.forM f = .ok () ↔ ∀ a ∈ l, f a = .ok () := by
  induction l with
  | nil => simp [pure, Except.pure]
  | cons a rest ih =>
    have hcons : (a :: rest).forM f = (f a >>= fun _ => rest.forM f) := rfl
    rw [hcons, List.forall_mem_cons, ← ih]
    -- the first step fails, and with it the whole, or it is passed
    cases ha : f a with
    | error e => simp [bind, Except.bind]
    | ok u => simp [ok_bind]

end SecretScan
