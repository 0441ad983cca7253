import SecretScan.CommandLine.Grammar
import SecretScan.Text.Quoted
import SecretScan.Text.WordChar

/-!
# Reading command lines

The arguments of a program, read by a grammar. Long options may be shortened as long as they stay
clear, and may have their value attached with an equals sign; after `--` all arguments are operands.
What is not understood is collected, and only reported in the end.
-/

namespace SecretScan.CommandLine

/-- How a command line can be wrong. -/
inductive Misuse where
  /-- A shortened option could stand for several. -/
  | ambiguous (text : String) (candidates : List String)
  | valueMissing (option : String)
  /-- A value is attached to an option that takes none. -/
  | valueIgnored (option value : String)
  | invalidChoice (argument value : String) (choices : List String)
  | unrecognized (texts : List String)
  deriving DecidableEq, Repr

/-- The wording of a fault. -/
def Misuse.message : Misuse → String
  | .ambiguous text candidates =>
    "ambiguous option: " ++ text ++ " could match " ++ ", ".intercalate candidates
  | .valueMissing option => "argument " ++ option ++ ": expected one argument"
  | .valueIgnored option value =>
    "argument " ++ option ++ ": ignored explicit argument " ++ Text.quoted value
  | .invalidChoice argument value choices =>
    "argument " ++ argument ++ ": invalid choice: " ++ Text.quoted value ++ " (choose from " ++
      ", ".intercalate (choices.map Text.quoted) ++ ")"
  | .unrecognized texts => "unrecognized arguments: " ++ " ".intercalate texts

/-- Why reading stops. -/
inductive Stop where
  /-- The help text is asked for. -/
  | help
  | misuse (m : Misuse)
  deriving DecidableEq, Repr

/-- A value attached to an option: after an equals sign, or right after a short name. -/
structure Attached where
  value : List Char
  byEquals : Bool
  deriving DecidableEq, Repr

/-- What an argument is. -/
inductive Word where
  | operand (text : String)
  | separator
  | option (text : String) (spec : OptionSpec) (attached : Option Attached)
  /-- It looks like an option, but there is none of this name. -/
  | unknown (text : String)
  deriving Repr

/-- The argument as it was given. -/
def Word.text : Word → String
  | .operand text | .option text _ _ | .unknown text => text
  | .separator => "--"

/-- Splits an argument at its first equals sign. -/
def splitAtEquals (text : List Char) : String × Option Attached :=
  (String.ofList (text.takeWhile (· != '=')),
    match text.dropWhile (· != '=') with
    | [] => none
    | _ :: value => some ⟨value, true⟩)

/-- Is this a negative number? A line feed may follow it. -/
def isNegativeNumber (text : List Char) : Bool :=
  match if text.getLast? = some '\n' then text.dropLast else text with
  | '-' :: rest =>
    let whole := rest.takeWhile Text.isDecimal
    match rest.dropWhile Text.isDecimal with
    | [] => !whole.isEmpty
    | '.' :: places => !places.isEmpty && places.all Text.isDecimal
    | _ => false
  | _ => false

namespace Grammar

/-- The options that an argument could be short for, with the name of each. -/
def candidates (g : Grammar) (text : List Char) : List (String × Word) :=
  let given := String.ofList text
  match text with
  | '-' :: '-' :: _ =>
    let (start, attached) := splitAtEquals text
    g.named.filterMap fun (name, o) =>
      if start.toList.isPrefixOf name.toList then some (name, .option given o attached) else none
  | _ =>
    g.named.filterMap fun (name, o) =>
      if name.toList == text.take 2 then some (name, .option given o (some ⟨text.drop 2, false⟩))
      else if text.isPrefixOf name.toList then some (name, .option given o none)
      else none

/-- What an argument is that begins with a hyphen and is longer than that. -/
def hyphenWord (g : Grammar) (text : List Char) : Except Misuse Word :=
  let given := String.ofList text
  let (name, attached) := splitAtEquals text
  match g.option? given, attached, g.option? name with
  | some o, _, _ => .ok (.option given o none)
  | none, some a, some o => .ok (.option given o (some a))
  | _, _, _ =>
    match g.candidates text with
    | [(_, w)] => .ok w
    | [] =>
      .ok (if isNegativeNumber text || text.contains ' ' then .operand given else .unknown given)
    | many => .error (.ambiguous given (many.map (·.1)))

/-- What an argument is. -/
def word (g : Grammar) (text : String) : Except Misuse Word :=
  match text.toList with
  | '-' :: c :: rest => g.hyphenWord ('-' :: c :: rest)
  | _ => .ok (.operand text)

/-- What the arguments are. -/
def words (g : Grammar) : List String → Except Misuse (List Word)
  | [] => .ok []
  | text :: rest =>
    if text == "--" then .ok (.separator :: rest.map .operand)
    else do return (← g.word text) :: (← g.words rest)

end Grammar

/-- What has been read of a command line. -/
structure Reading where
  /-- The options given, in order, by their long names. -/
  settings : List (String × String) := []
  /-- The operand and what follows it, once it has been read. -/
  operand : Option (List String) := none
  /-- What was not understood. -/
  extras : List String := []
  deriving DecidableEq, Repr

namespace Reading

/-- Was a flag given? -/
def isSet (r : Reading) (name : String) : Bool :=
  r.settings.any (·.1 == name)

/-- All values of an option. -/
def valuesOf (r : Reading) (name : String) : List String :=
  (r.settings.filter (·.1 == name)).map (·.2)

/-- The value of an option; the last one counts. -/
def value? (r : Reading) (name : String) : Option String :=
  (r.valuesOf name).getLast?

/-- Notes what was not understood. -/
def addExtra (r : Reading) (text : String) : Reading :=
  { r with extras := r.extras ++ [text] }

/-- Notes an option without a value. -/
def setFlag (r : Reading) (o : OptionSpec) : Except Stop Reading :=
  match o.kind with
  | .help => .error .help
  | _ => .ok { r with settings := r.settings ++ [(o.name, "")] }

/-- Notes an option with its value. -/
def setValue (r : Reading) (o : OptionSpec) (choices : List String) (value : String) :
    Except Stop Reading :=
  if choices.isEmpty || choices.contains value then
    .ok { r with settings := r.settings ++ [(o.name, value)] }
  else .error (.misuse (.invalidChoice o.label value choices))

end Reading

/-- The flags of a bundle of short names, the first of which is `o`, and the rest that is no name;
`value` is what is attached to the first. -/
def bundle (g : Grammar) (o : OptionSpec) (byEquals : Bool) :
    List Char → Except Misuse (List OptionSpec × Option String)
  | [] => .error (.valueIgnored o.label "")
  | c :: rest =>
    if byEquals || c == '-' then .error (.valueIgnored o.label (String.ofList (c :: rest)))
    else
      match g.option? (String.ofList ['-', c]), rest with
      | none, _ => .ok ([o], some (String.ofList ('-' :: c :: rest)))
      | some next, [] => .ok ([o, next], none)
      | some next, '=' :: value => do
        match ← bundle g next true value with
        | (flags, extra) => return (o :: flags, extra)
      | some next, d :: more => do
        match ← bundle g next false (d :: more) with
        | (flags, extra) => return (o :: flags, extra)

/-- Does the argument begin with a short name? -/
def isShort (text : String) : Bool :=
  !(['-', '-'].isPrefixOf text.toList)

/-- Reads an option with an attached value. -/
def readAttached (g : Grammar) (r : Reading) (text : String) (o : OptionSpec) (a : Attached) :
    Except Stop Reading :=
  match o.kind with
  | .value choices => r.setValue o choices (String.ofList a.value)
  | _ =>
    if isShort text && !a.value.isEmpty then do
      let (flags, extra) ← (bundle g o a.byEquals a.value).mapError .misuse
      flags.foldlM Reading.setFlag (extra.toList.foldl Reading.addExtra r)
    else .error (.misuse (.valueIgnored o.label (String.ofList a.value)))

/-- Drops a separator. -/
def withoutSeparator : List Word → List Word
  | .separator :: rest => rest
  | words => words

/-- Splits off the operand at an argument that is no option, and says what is left. Without an
operand to be read the argument is not understood. -/
def readOperand (o : Operand) (r : Reading) (w : Word) (rest : List Word) :
    Except Stop (Reading × List Word) :=
  match r.operand, o, w, rest with
  | none, .optional _ _, .separator, .operand text :: rest =>
    .ok ({ r with operand := some [text] }, rest)
  | none, .optional _ _, .separator, rest => .ok ({ r with operand := some [] }, rest)
  | none, .optional _ _, w, rest =>
    .ok ({ r with operand := some [w.text] }, withoutSeparator rest)
  | none, .command _ _, .separator, [] => .ok (r.addExtra w.text, [])
  | none, .command name commands, w, rest =>
    let choices := commands.map (·.1)
    if choices.contains w.text then
      .ok ({ r with operand := some (w.text :: rest.map Word.text) }, [])
    else .error (.misuse (.invalidChoice name w.text choices))
  | _, _, w, rest => .ok (r.addExtra w.text, rest)

/-- Reads the next argument, together with a value or an operand that follows it. -/
def readNext (g : Grammar) (r : Reading) (w : Word) (rest : List Word) :
    Except Stop (Reading × List Word) :=
  match w with
  | .unknown text => .ok (r.addExtra text, rest)
  | .option text o (some a) => do return (← readAttached g r text o a, rest)
  | .option _ o none =>
    match o.kind, rest with
    | .value choices, .operand text :: rest => do return (← r.setValue o choices text, rest)
    | .value _, _ => .error (.misuse (.valueMissing o.label))
    | _, rest => do return (← r.setFlag o, rest)
  | w => readOperand g.operand r w rest

/-- Reads arguments; `fuel` is at least their number. -/
def readWords (g : Grammar) : (fuel : Nat) → Reading → List Word → Except Stop Reading
  | 0, r, _ | _, r, [] => .ok r
  | fuel + 1, r, w :: rest => do
    let (r, rest) ← readNext g r w rest
    readWords g fuel r rest

/-- Reads the arguments of a program. -/
def Grammar.read (g : Grammar) (arguments : List String) : Except Stop Reading := do
  let words ← (g.words arguments).mapError .misuse
  readWords g words.length {} words

end SecretScan.CommandLine
