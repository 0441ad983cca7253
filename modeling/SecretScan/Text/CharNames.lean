import SecretScan.Text.CharRanges

/-!
# Names of characters

The names that Unicode 14 gives to the Latin, Greek and Cyrillic letters, to punctuation, currency
signs, arrows, mathematical operators and box drawings, with the aliases of controls and invisible
characters: `code:NAME`, and `_` for a blank. The names of Hangul syllables and of ideographs follow
a rule and are computed. Names of other scripts are not listed.
-/

namespace SecretScan.Text

/-- Reads a code point and its name. -/
def readCharName (word : List Char) : List Char × Nat :=
  let name := (word.dropWhile (· != ':')).drop 1
  (name.map fun c => if c == '_' then ' ' else c,
    CharRanges.hexNumber (word.takeWhile (· != ':')))

/-- The names of characters, with their code points. -/
def charNameTable : List Char := "
   0:NULL 0:NUL 1:START_OF_HEADING 1:SOH 2:START_OF_TEXT 2:STX 3:END_OF_TEXT 3:ETX
   4:END_OF_TRANSMISSION 4:EOT 5:ENQUIRY 5:ENQ 6:ACKNOWLEDGE 6:ACK 7:ALERT 7:BEL 8:BACKSPACE 8:BS
   9:CHARACTER_TABULATION 9:HORIZONTAL_TABULATION 9:HT 9:TAB A:LINE_FEED A:NEW_LINE A:END_OF_LINE
   A:LF A:NL A:EOL B:LINE_TABULATION B:VERTICAL_TABULATION B:VT C:FORM_FEED C:FF D:CARRIAGE_RETURN
   D:CR E:SHIFT_OUT E:LOCKING-SHIFT_ONE E:SO F:SHIFT_IN F:LOCKING-SHIFT_ZERO F:SI
   10:DATA_LINK_ESCAPE 10:DLE 11:DEVICE_CONTROL_ONE 11:DC1 12:DEVICE_CONTROL_TWO 12:DC2
   13:DEVICE_CONTROL_THREE 13:DC3 14:DEVICE_CONTROL_FOUR 14:DC4 15:NEGATIVE_ACKNOWLEDGE 15:NAK
   16:SYNCHRONOUS_IDLE 16:SYN 17:END_OF_TRANSMISSION_BLOCK 17:ETB 18:CANCEL 18:CAN 19:END_OF_MEDIUM
   19:EOM 1A:SUBSTITUTE 1A:SUB 1B:ESCAPE 1B:ESC 1C:INFORMATION_SEPARATOR_FOUR 1C:FILE_SEPARATOR
   1C:FS 1D:INFORMATION_SEPARATOR_THREE 1D:GROUP_SEPARATOR 1D:GS 1E:INFORMATION_SEPARATOR_TWO
   1E:RECORD_SEPARATOR 1E:RS 1F:INFORMATION_SEPARATOR_ONE 1F:UNIT_SEPARATOR 1F:US 20:SPACE 20:SP
   21:EXCLAMATION_MARK 22:QUOTATION_MARK 23:NUMBER_SIGN 24:DOLLAR_SIGN 25:PERCENT_SIGN 26:AMPERSAND
   27:APOSTROPHE 28:LEFT_PARENTHESIS 29:RIGHT_PARENTHESIS 2A:ASTERISK 2B:PLUS_SIGN 2C:COMMA
   2D:HYPHEN-MINUS 2E:FULL_STOP 2F:SOLIDUS 30:DIGIT_ZERO 31:DIGIT_ONE 32:DIGIT_TWO 33:DIGIT_THREE
   34:DIGIT_FOUR 35:DIGIT_FIVE 36:DIGIT_SIX 37:DIGIT_SEVEN 38:DIGIT_EIGHT 39:DIGIT_NINE 3A:COLON
   3B:SEMICOLON 3C:LESS-THAN_SIGN 3D:EQUALS_SIGN 3E:GREATER-THAN_SIGN 3F:QUESTION_MARK
   40:COMMERCIAL_AT 41:LATIN_CAPITAL_LETTER_A 42:LATIN_CAPITAL_LETTER_B 43:LATIN_CAPITAL_LETTER_C
   44:LATIN_CAPITAL_LETTER_D 45:LATIN_CAPITAL_LETTER_E 46:LATIN_CAPITAL_LETTER_F
   47:LATIN_CAPITAL_LETTER_G 48:LATIN_CAPITAL_LETTER_H 49:LATIN_CAPITAL_LETTER_I
   4A:LATIN_CAPITAL_LETTER_J 4B:LATIN_CAPITAL_LETTER_K 4C:LATIN_CAPITAL_LETTER_L
   4D:LATIN_CAPITAL_LETTER_M 4E:LATIN_CAPITAL_LETTER_N 4F:LATIN_CAPITAL_LETTER_O
   50:LATIN_CAPITAL_LETTER_P 51:LATIN_CAPITAL_LETTER_Q 52:LATIN_CAPITAL_LETTER_R
   53:LATIN_CAPITAL_LETTER_S 54:LATIN_CAPITAL_LETTER_T 55:LATIN_CAPITAL_LETTER_U
   56:LATIN_CAPITAL_LETTER_V 57:LATIN_CAPITAL_LETTER_W 58:LATIN_CAPITAL_LETTER_X
   59:LATIN_CAPITAL_LETTER_Y 5A:LATIN_CAPITAL_LETTER_Z 5B:LEFT_SQUARE_BRACKET 5C:REVERSE_SOLIDUS
   5D:RIGHT_SQUARE_BRACKET 5E:CIRCUMFLEX_ACCENT 5F:LOW_LINE 60:GRAVE_ACCENT 61:LATIN_SMALL_LETTER_A
   62:LATIN_SMALL_LETTER_B 63:LATIN_SMALL_LETTER_C 64:LATIN_SMALL_LETTER_D 65:LATIN_SMALL_LETTER_E
   66:LATIN_SMALL_LETTER_F 67:LATIN_SMALL_LETTER_G 68:LATIN_SMALL_LETTER_H 69:LATIN_SMALL_LETTER_I
   6A:LATIN_SMALL_LETTER_J 6B:LATIN_SMALL_LETTER_K 6C:LATIN_SMALL_LETTER_L 6D:LATIN_SMALL_LETTER_M
   6E:LATIN_SMALL_LETTER_N 6F:LATIN_SMALL_LETTER_O 70:LATIN_SMALL_LETTER_P 71:LATIN_SMALL_LETTER_Q
   72:LATIN_SMALL_LETTER_R 73:LATIN_SMALL_LETTER_S 74:LATIN_SMALL_LETTER_T 75:LATIN_SMALL_LETTER_U
   76:LATIN_SMALL_LETTER_V 77:LATIN_SMALL_LETTER_W 78:LATIN_SMALL_LETTER_X 79:LATIN_SMALL_LETTER_Y
   7A:LATIN_SMALL_LETTER_Z 7B:LEFT_CURLY_BRACKET 7C:VERTICAL_LINE 7D:RIGHT_CURLY_BRACKET 7E:TILDE
   7F:DELETE 7F:DEL 80:PADDING_CHARACTER 80:PAD 81:HIGH_OCTET_PRESET 81:HOP 82:BREAK_PERMITTED_HERE
   82:BPH 83:NO_BREAK_HERE 83:NBH 84:INDEX 84:IND 85:NEXT_LINE 85:NEL 86:START_OF_SELECTED_AREA
   86:SSA 87:END_OF_SELECTED_AREA 87:ESA 88:CHARACTER_TABULATION_SET 88:HORIZONTAL_TABULATION_SET
   88:HTS 89:CHARACTER_TABULATION_WITH_JUSTIFICATION 89:HORIZONTAL_TABULATION_WITH_JUSTIFICATION
   89:HTJ 8A:LINE_TABULATION_SET 8A:VERTICAL_TABULATION_SET 8A:VTS 8B:PARTIAL_LINE_FORWARD
   8B:PARTIAL_LINE_DOWN 8B:PLD 8C:PARTIAL_LINE_BACKWARD 8C:PARTIAL_LINE_UP 8C:PLU
   8D:REVERSE_LINE_FEED 8D:REVERSE_INDEX 8D:RI 8E:SINGLE_SHIFT_TWO 8E:SINGLE-SHIFT-2 8E:SS2
   8F:SINGLE_SHIFT_THREE 8F:SINGLE-SHIFT-3 8F:SS3 90:DEVICE_CONTROL_STRING 90:DCS 91:PRIVATE_USE_ONE
   91:PRIVATE_USE-1 91:PU1 92:PRIVATE_USE_TWO 92:PRIVATE_USE-2 92:PU2 93:SET_TRANSMIT_STATE 93:STS
   94:CANCEL_CHARACTER 94:CCH 95:MESSAGE_WAITING 95:MW 96:START_OF_GUARDED_AREA
   96:START_OF_PROTECTED_AREA 96:SPA 97:END_OF_GUARDED_AREA 97:END_OF_PROTECTED_AREA 97:EPA
   98:START_OF_STRING 98:SOS 99:SINGLE_GRAPHIC_CHARACTER_INTRODUCER 99:SGC
   9A:SINGLE_CHARACTER_INTRODUCER 9A:SCI 9B:CONTROL_SEQUENCE_INTRODUCER 9B:CSI 9C:STRING_TERMINATOR
   9C:ST 9D:OPERATING_SYSTEM_COMMAND 9D:OSC 9E:PRIVACY_MESSAGE 9E:PM 9F:APPLICATION_PROGRAM_COMMAND
   9F:APC A0:NO-BREAK_SPACE A0:NBSP A1:INVERTED_EXCLAMATION_MARK A2:CENT_SIGN A3:POUND_SIGN
   A4:CURRENCY_SIGN A5:YEN_SIGN A6:BROKEN_BAR A7:SECTION_SIGN A8:DIAERESIS A9:COPYRIGHT_SIGN
   AA:FEMININE_ORDINAL_INDICATOR AB:LEFT-POINTING_DOUBLE_ANGLE_QUOTATION_MARK AC:NOT_SIGN
   AD:SOFT_HYPHEN AD:SHY AE:REGISTERED_SIGN AF:MACRON B0:DEGREE_SIGN B1:PLUS-MINUS_SIGN
   B2:SUPERSCRIPT_TWO B3:SUPERSCRIPT_THREE B4:ACUTE_ACCENT B5:MICRO_SIGN B6:PILCROW_SIGN
   B7:MIDDLE_DOT B8:CEDILLA B9:SUPERSCRIPT_ONE BA:MASCULINE_ORDINAL_INDICATOR
   BB:RIGHT-POINTING_DOUBLE_ANGLE_QUOTATION_MARK BC:VULGAR_FRACTION_ONE_QUARTER
   BD:VULGAR_FRACTION_ONE_HALF BE:VULGAR_FRACTION_THREE_QUARTERS BF:INVERTED_QUESTION_MARK
   C0:LATIN_CAPITAL_LETTER_A_WITH_GRAVE C1:LATIN_CAPITAL_LETTER_A_WITH_ACUTE
   C2:LATIN_CAPITAL_LETTER_A_WITH_CIRCUMFLEX C3:LATIN_CAPITAL_LETTER_A_WITH_TILDE
   C4:LATIN_CAPITAL_LETTER_A_WITH_DIAERESIS C5:LATIN_CAPITAL_LETTER_A_WITH_RING_ABOVE
   C6:LATIN_CAPITAL_LETTER_AE C7:LATIN_CAPITAL_LETTER_C_WITH_CEDILLA
   C8:LATIN_CAPITAL_LETTER_E_WITH_GRAVE C9:LATIN_CAPITAL_LETTER_E_WITH_ACUTE
   CA:LATIN_CAPITAL_LETTER_E_WITH_CIRCUMFLEX CB:LATIN_CAPITAL_LETTER_E_WITH_DIAERESIS
   CC:LATIN_CAPITAL_LETTER_I_WITH_GRAVE CD:LATIN_CAPITAL_LETTER_I_WITH_ACUTE
   CE:LATIN_CAPITAL_LETTER_I_WITH_CIRCUMFLEX CF:LATIN_CAPITAL_LETTER_I_WITH_DIAERESIS
   D0:LATIN_CAPITAL_LETTER_ETH D1:LATIN_CAPITAL_LETTER_N_WITH_TILDE
   D2:LATIN_CAPITAL_LETTER_O_WITH_GRAVE D3:LATIN_CAPITAL_LETTER_O_WITH_ACUTE
   D4:LATIN_CAPITAL_LETTER_O_WITH_CIRCUMFLEX D5:LATIN_CAPITAL_LETTER_O_WITH_TILDE
   D6:LATIN_CAPITAL_LETTER_O_WITH_DIAERESIS D7:MULTIPLICATION_SIGN
   D8:LATIN_CAPITAL_LETTER_O_WITH_STROKE D9:LATIN_CAPITAL_LETTER_U_WITH_GRAVE
   DA:LATIN_CAPITAL_LETTER_U_WITH_ACUTE DB:LATIN_CAPITAL_LETTER_U_WITH_CIRCUMFLEX
   DC:LATIN_CAPITAL_LETTER_U_WITH_DIAERESIS DD:LATIN_CAPITAL_LETTER_Y_WITH_ACUTE
   DE:LATIN_CAPITAL_LETTER_THORN DF:LATIN_SMALL_LETTER_SHARP_S E0:LATIN_SMALL_LETTER_A_WITH_GRAVE
   E1:LATIN_SMALL_LETTER_A_WITH_ACUTE E2:LATIN_SMALL_LETTER_A_WITH_CIRCUMFLEX
   E3:LATIN_SMALL_LETTER_A_WITH_TILDE E4:LATIN_SMALL_LETTER_A_WITH_DIAERESIS
   E5:LATIN_SMALL_LETTER_A_WITH_RING_ABOVE E6:LATIN_SMALL_LETTER_AE
   E7:LATIN_SMALL_LETTER_C_WITH_CEDILLA E8:LATIN_SMALL_LETTER_E_WITH_GRAVE
   E9:LATIN_SMALL_LETTER_E_WITH_ACUTE EA:LATIN_SMALL_LETTER_E_WITH_CIRCUMFLEX
   EB:LATIN_SMALL_LETTER_E_WITH_DIAERESIS EC:LATIN_SMALL_LETTER_I_WITH_GRAVE
   ED:LATIN_SMALL_LETTER_I_WITH_ACUTE EE:LATIN_SMALL_LETTER_I_WITH_CIRCUMFLEX
   EF:LATIN_SMALL_LETTER_I_WITH_DIAERESIS F0:LATIN_SMALL_LETTER_ETH
   F1:LATIN_SMALL_LETTER_N_WITH_TILDE F2:LATIN_SMALL_LETTER_O_WITH_GRAVE
   F3:LATIN_SMALL_LETTER_O_WITH_ACUTE F4:LATIN_SMALL_LETTER_O_WITH_CIRCUMFLEX
   F5:LATIN_SMALL_LETTER_O_WITH_TILDE F6:LATIN_SMALL_LETTER_O_WITH_DIAERESIS F7:DIVISION_SIGN
   F8:LATIN_SMALL_LETTER_O_WITH_STROKE F9:LATIN_SMALL_LETTER_U_WITH_GRAVE
   FA:LATIN_SMALL_LETTER_U_WITH_ACUTE FB:LATIN_SMALL_LETTER_U_WITH_CIRCUMFLEX
   FC:LATIN_SMALL_LETTER_U_WITH_DIAERESIS FD:LATIN_SMALL_LETTER_Y_WITH_ACUTE
   FE:LATIN_SMALL_LETTER_THORN FF:LATIN_SMALL_LETTER_Y_WITH_DIAERESIS
   100:LATIN_CAPITAL_LETTER_A_WITH_MACRON 101:LATIN_SMALL_LETTER_A_WITH_MACRON
   102:LATIN_CAPITAL_LETTER_A_WITH_BREVE 103:LATIN_SMALL_LETTER_A_WITH_BREVE
   104:LATIN_CAPITAL_LETTER_A_WITH_OGONEK 105:LATIN_SMALL_LETTER_A_WITH_OGONEK
   106:LATIN_CAPITAL_LETTER_C_WITH_ACUTE 107:LATIN_SMALL_LETTER_C_WITH_ACUTE
   108:LATIN_CAPITAL_LETTER_C_WITH_CIRCUMFLEX 109:LATIN_SMALL_LETTER_C_WITH_CIRCUMFLEX
   10A:LATIN_CAPITAL_LETTER_C_WITH_DOT_ABOVE 10B:LATIN_SMALL_LETTER_C_WITH_DOT_ABOVE
   10C:LATIN_CAPITAL_LETTER_C_WITH_CARON 10D:LATIN_SMALL_LETTER_C_WITH_CARON
   10E:LATIN_CAPITAL_LETTER_D_WITH_CARON 10F:LATIN_SMALL_LETTER_D_WITH_CARON
   110:LATIN_CAPITAL_LETTER_D_WITH_STROKE 111:LATIN_SMALL_LETTER_D_WITH_STROKE
   112:LATIN_CAPITAL_LETTER_E_WITH_MACRON 113:LATIN_SMALL_LETTER_E_WITH_MACRON
   114:LATIN_CAPITAL_LETTER_E_WITH_BREVE 115:LATIN_SMALL_LETTER_E_WITH_BREVE
   116:LATIN_CAPITAL_LETTER_E_WITH_DOT_ABOVE 117:LATIN_SMALL_LETTER_E_WITH_DOT_ABOVE
   118:LATIN_CAPITAL_LETTER_E_WITH_OGONEK 119:LATIN_SMALL_LETTER_E_WITH_OGONEK
   11A:LATIN_CAPITAL_LETTER_E_WITH_CARON 11B:LATIN_SMALL_LETTER_E_WITH_CARON
   11C:LATIN_CAPITAL_LETTER_G_WITH_CIRCUMFLEX 11D:LATIN_SMALL_LETTER_G_WITH_CIRCUMFLEX
   11E:LATIN_CAPITAL_LETTER_G_WITH_BREVE 11F:LATIN_SMALL_LETTER_G_WITH_BREVE
   120:LATIN_CAPITAL_LETTER_G_WITH_DOT_ABOVE 121:LATIN_SMALL_LETTER_G_WITH_DOT_ABOVE
   122:LATIN_CAPITAL_LETTER_G_WITH_CEDILLA 123:LATIN_SMALL_LETTER_G_WITH_CEDILLA
   124:LATIN_CAPITAL_LETTER_H_WITH_CIRCUMFLEX 125:LATIN_SMALL_LETTER_H_WITH_CIRCUMFLEX
   126:LATIN_CAPITAL_LETTER_H_WITH_STROKE 127:LATIN_SMALL_LETTER_H_WITH_STROKE
   128:LATIN_CAPITAL_LETTER_I_WITH_TILDE 129:LATIN_SMALL_LETTER_I_WITH_TILDE
   12A:LATIN_CAPITAL_LETTER_I_WITH_MACRON 12B:LATIN_SMALL_LETTER_I_WITH_MACRON
   12C:LATIN_CAPITAL_LETTER_I_WITH_BREVE 12D:LATIN_SMALL_LETTER_I_WITH_BREVE
   12E:LATIN_CAPITAL_LETTER_I_WITH_OGONEK 12F:LATIN_SMALL_LETTER_I_WITH_OGONEK
   130:LATIN_CAPITAL_LETTER_I_WITH_DOT_ABOVE 131:LATIN_SMALL_LETTER_DOTLESS_I
   132:LATIN_CAPITAL_LIGATURE_IJ 133:LATIN_SMALL_LIGATURE_IJ
   134:LATIN_CAPITAL_LETTER_J_WITH_CIRCUMFLEX 135:LATIN_SMALL_LETTER_J_WITH_CIRCUMFLEX
   136:LATIN_CAPITAL_LETTER_K_WITH_CEDILLA 137:LATIN_SMALL_LETTER_K_WITH_CEDILLA
   138:LATIN_SMALL_LETTER_KRA 139:LATIN_CAPITAL_LETTER_L_WITH_ACUTE
   13A:LATIN_SMALL_LETTER_L_WITH_ACUTE 13B:LATIN_CAPITAL_LETTER_L_WITH_CEDILLA
   13C:LATIN_SMALL_LETTER_L_WITH_CEDILLA 13D:LATIN_CAPITAL_LETTER_L_WITH_CARON
   13E:LATIN_SMALL_LETTER_L_WITH_CARON 13F:LATIN_CAPITAL_LETTER_L_WITH_MIDDLE_DOT
   140:LATIN_SMALL_LETTER_L_WITH_MIDDLE_DOT 141:LATIN_CAPITAL_LETTER_L_WITH_STROKE
   142:LATIN_SMALL_LETTER_L_WITH_STROKE 143:LATIN_CAPITAL_LETTER_N_WITH_ACUTE
   144:LATIN_SMALL_LETTER_N_WITH_ACUTE 145:LATIN_CAPITAL_LETTER_N_WITH_CEDILLA
   146:LATIN_SMALL_LETTER_N_WITH_CEDILLA 147:LATIN_CAPITAL_LETTER_N_WITH_CARON
   148:LATIN_SMALL_LETTER_N_WITH_CARON 149:LATIN_SMALL_LETTER_N_PRECEDED_BY_APOSTROPHE
   14A:LATIN_CAPITAL_LETTER_ENG 14B:LATIN_SMALL_LETTER_ENG 14C:LATIN_CAPITAL_LETTER_O_WITH_MACRON
   14D:LATIN_SMALL_LETTER_O_WITH_MACRON 14E:LATIN_CAPITAL_LETTER_O_WITH_BREVE
   14F:LATIN_SMALL_LETTER_O_WITH_BREVE 150:LATIN_CAPITAL_LETTER_O_WITH_DOUBLE_ACUTE
   151:LATIN_SMALL_LETTER_O_WITH_DOUBLE_ACUTE 152:LATIN_CAPITAL_LIGATURE_OE
   153:LATIN_SMALL_LIGATURE_OE 154:LATIN_CAPITAL_LETTER_R_WITH_ACUTE
   155:LATIN_SMALL_LETTER_R_WITH_ACUTE 156:LATIN_CAPITAL_LETTER_R_WITH_CEDILLA
   157:LATIN_SMALL_LETTER_R_WITH_CEDILLA 158:LATIN_CAPITAL_LETTER_R_WITH_CARON
   159:LATIN_SMALL_LETTER_R_WITH_CARON 15A:LATIN_CAPITAL_LETTER_S_WITH_ACUTE
   15B:LATIN_SMALL_LETTER_S_WITH_ACUTE 15C:LATIN_CAPITAL_LETTER_S_WITH_CIRCUMFLEX
   15D:LATIN_SMALL_LETTER_S_WITH_CIRCUMFLEX 15E:LATIN_CAPITAL_LETTER_S_WITH_CEDILLA
   15F:LATIN_SMALL_LETTER_S_WITH_CEDILLA 160:LATIN_CAPITAL_LETTER_S_WITH_CARON
   161:LATIN_SMALL_LETTER_S_WITH_CARON 162:LATIN_CAPITAL_LETTER_T_WITH_CEDILLA
   163:LATIN_SMALL_LETTER_T_WITH_CEDILLA 164:LATIN_CAPITAL_LETTER_T_WITH_CARON
   165:LATIN_SMALL_LETTER_T_WITH_CARON 166:LATIN_CAPITAL_LETTER_T_WITH_STROKE
   167:LATIN_SMALL_LETTER_T_WITH_STROKE 168:LATIN_CAPITAL_LETTER_U_WITH_TILDE
   169:LATIN_SMALL_LETTER_U_WITH_TILDE 16A:LATIN_CAPITAL_LETTER_U_WITH_MACRON
   16B:LATIN_SMALL_LETTER_U_WITH_MACRON 16C:LATIN_CAPITAL_LETTER_U_WITH_BREVE
   16D:LATIN_SMALL_LETTER_U_WITH_BREVE 16E:LATIN_CAPITAL_LETTER_U_WITH_RING_ABOVE
   16F:LATIN_SMALL_LETTER_U_WITH_RING_ABOVE 170:LATIN_CAPITAL_LETTER_U_WITH_DOUBLE_ACUTE
   171:LATIN_SMALL_LETTER_U_WITH_DOUBLE_ACUTE 172:LATIN_CAPITAL_LETTER_U_WITH_OGONEK
   173:LATIN_SMALL_LETTER_U_WITH_OGONEK 174:LATIN_CAPITAL_LETTER_W_WITH_CIRCUMFLEX
   175:LATIN_SMALL_LETTER_W_WITH_CIRCUMFLEX 176:LATIN_CAPITAL_LETTER_Y_WITH_CIRCUMFLEX
   177:LATIN_SMALL_LETTER_Y_WITH_CIRCUMFLEX 178:LATIN_CAPITAL_LETTER_Y_WITH_DIAERESIS
   179:LATIN_CAPITAL_LETTER_Z_WITH_ACUTE 17A:LATIN_SMALL_LETTER_Z_WITH_ACUTE
   17B:LATIN_CAPITAL_LETTER_Z_WITH_DOT_ABOVE 17C:LATIN_SMALL_LETTER_Z_WITH_DOT_ABOVE
   17D:LATIN_CAPITAL_LETTER_Z_WITH_CARON 17E:LATIN_SMALL_LETTER_Z_WITH_CARON
   17F:LATIN_SMALL_LETTER_LONG_S 180:LATIN_SMALL_LETTER_B_WITH_STROKE
   181:LATIN_CAPITAL_LETTER_B_WITH_HOOK 182:LATIN_CAPITAL_LETTER_B_WITH_TOPBAR
   183:LATIN_SMALL_LETTER_B_WITH_TOPBAR 184:LATIN_CAPITAL_LETTER_TONE_SIX
   185:LATIN_SMALL_LETTER_TONE_SIX 186:LATIN_CAPITAL_LETTER_OPEN_O
   187:LATIN_CAPITAL_LETTER_C_WITH_HOOK 188:LATIN_SMALL_LETTER_C_WITH_HOOK
   189:LATIN_CAPITAL_LETTER_AFRICAN_D 18A:LATIN_CAPITAL_LETTER_D_WITH_HOOK
   18B:LATIN_CAPITAL_LETTER_D_WITH_TOPBAR 18C:LATIN_SMALL_LETTER_D_WITH_TOPBAR
   18D:LATIN_SMALL_LETTER_TURNED_DELTA 18E:LATIN_CAPITAL_LETTER_REVERSED_E
   18F:LATIN_CAPITAL_LETTER_SCHWA 190:LATIN_CAPITAL_LETTER_OPEN_E
   191:LATIN_CAPITAL_LETTER_F_WITH_HOOK 192:LATIN_SMALL_LETTER_F_WITH_HOOK
   193:LATIN_CAPITAL_LETTER_G_WITH_HOOK 194:LATIN_CAPITAL_LETTER_GAMMA 195:LATIN_SMALL_LETTER_HV
   196:LATIN_CAPITAL_LETTER_IOTA 197:LATIN_CAPITAL_LETTER_I_WITH_STROKE
   198:LATIN_CAPITAL_LETTER_K_WITH_HOOK 199:LATIN_SMALL_LETTER_K_WITH_HOOK
   19A:LATIN_SMALL_LETTER_L_WITH_BAR 19B:LATIN_SMALL_LETTER_LAMBDA_WITH_STROKE
   19C:LATIN_CAPITAL_LETTER_TURNED_M 19D:LATIN_CAPITAL_LETTER_N_WITH_LEFT_HOOK
   19E:LATIN_SMALL_LETTER_N_WITH_LONG_RIGHT_LEG 19F:LATIN_CAPITAL_LETTER_O_WITH_MIDDLE_TILDE
   1A0:LATIN_CAPITAL_LETTER_O_WITH_HORN 1A1:LATIN_SMALL_LETTER_O_WITH_HORN
   1A2:LATIN_CAPITAL_LETTER_OI 1A2:LATIN_CAPITAL_LETTER_GHA 1A3:LATIN_SMALL_LETTER_OI
   1A3:LATIN_SMALL_LETTER_GHA 1A4:LATIN_CAPITAL_LETTER_P_WITH_HOOK
   1A5:LATIN_SMALL_LETTER_P_WITH_HOOK 1A6:LATIN_LETTER_YR 1A7:LATIN_CAPITAL_LETTER_TONE_TWO
   1A8:LATIN_SMALL_LETTER_TONE_TWO 1A9:LATIN_CAPITAL_LETTER_ESH 1AA:LATIN_LETTER_REVERSED_ESH_LOOP
   1AB:LATIN_SMALL_LETTER_T_WITH_PALATAL_HOOK 1AC:LATIN_CAPITAL_LETTER_T_WITH_HOOK
   1AD:LATIN_SMALL_LETTER_T_WITH_HOOK 1AE:LATIN_CAPITAL_LETTER_T_WITH_RETROFLEX_HOOK
   1AF:LATIN_CAPITAL_LETTER_U_WITH_HORN 1B0:LATIN_SMALL_LETTER_U_WITH_HORN
   1B1:LATIN_CAPITAL_LETTER_UPSILON 1B2:LATIN_CAPITAL_LETTER_V_WITH_HOOK
   1B3:LATIN_CAPITAL_LETTER_Y_WITH_HOOK 1B4:LATIN_SMALL_LETTER_Y_WITH_HOOK
   1B5:LATIN_CAPITAL_LETTER_Z_WITH_STROKE 1B6:LATIN_SMALL_LETTER_Z_WITH_STROKE
   1B7:LATIN_CAPITAL_LETTER_EZH 1B8:LATIN_CAPITAL_LETTER_EZH_REVERSED
   1B9:LATIN_SMALL_LETTER_EZH_REVERSED 1BA:LATIN_SMALL_LETTER_EZH_WITH_TAIL
   1BB:LATIN_LETTER_TWO_WITH_STROKE 1BC:LATIN_CAPITAL_LETTER_TONE_FIVE
   1BD:LATIN_SMALL_LETTER_TONE_FIVE 1BE:LATIN_LETTER_INVERTED_GLOTTAL_STOP_WITH_STROKE
   1BF:LATIN_LETTER_WYNN 1C0:LATIN_LETTER_DENTAL_CLICK 1C1:LATIN_LETTER_LATERAL_CLICK
   1C2:LATIN_LETTER_ALVEOLAR_CLICK 1C3:LATIN_LETTER_RETROFLEX_CLICK
   1C4:LATIN_CAPITAL_LETTER_DZ_WITH_CARON 1C5:LATIN_CAPITAL_LETTER_D_WITH_SMALL_LETTER_Z_WITH_CARON
   1C6:LATIN_SMALL_LETTER_DZ_WITH_CARON 1C7:LATIN_CAPITAL_LETTER_LJ
   1C8:LATIN_CAPITAL_LETTER_L_WITH_SMALL_LETTER_J 1C9:LATIN_SMALL_LETTER_LJ
   1CA:LATIN_CAPITAL_LETTER_NJ 1CB:LATIN_CAPITAL_LETTER_N_WITH_SMALL_LETTER_J
   1CC:LATIN_SMALL_LETTER_NJ 1CD:LATIN_CAPITAL_LETTER_A_WITH_CARON
   1CE:LATIN_SMALL_LETTER_A_WITH_CARON 1CF:LATIN_CAPITAL_LETTER_I_WITH_CARON
   1D0:LATIN_SMALL_LETTER_I_WITH_CARON 1D1:LATIN_CAPITAL_LETTER_O_WITH_CARON
   1D2:LATIN_SMALL_LETTER_O_WITH_CARON 1D3:LATIN_CAPITAL_LETTER_U_WITH_CARON
   1D4:LATIN_SMALL_LETTER_U_WITH_CARON 1D5:LATIN_CAPITAL_LETTER_U_WITH_DIAERESIS_AND_MACRON
   1D6:LATIN_SMALL_LETTER_U_WITH_DIAERESIS_AND_MACRON
   1D7:LATIN_CAPITAL_LETTER_U_WITH_DIAERESIS_AND_ACUTE
   1D8:LATIN_SMALL_LETTER_U_WITH_DIAERESIS_AND_ACUTE
   1D9:LATIN_CAPITAL_LETTER_U_WITH_DIAERESIS_AND_CARON
   1DA:LATIN_SMALL_LETTER_U_WITH_DIAERESIS_AND_CARON
   1DB:LATIN_CAPITAL_LETTER_U_WITH_DIAERESIS_AND_GRAVE
   1DC:LATIN_SMALL_LETTER_U_WITH_DIAERESIS_AND_GRAVE 1DD:LATIN_SMALL_LETTER_TURNED_E
   1DE:LATIN_CAPITAL_LETTER_A_WITH_DIAERESIS_AND_MACRON
   1DF:LATIN_SMALL_LETTER_A_WITH_DIAERESIS_AND_MACRON
   1E0:LATIN_CAPITAL_LETTER_A_WITH_DOT_ABOVE_AND_MACRON
   1E1:LATIN_SMALL_LETTER_A_WITH_DOT_ABOVE_AND_MACRON 1E2:LATIN_CAPITAL_LETTER_AE_WITH_MACRON
   1E3:LATIN_SMALL_LETTER_AE_WITH_MACRON 1E4:LATIN_CAPITAL_LETTER_G_WITH_STROKE
   1E5:LATIN_SMALL_LETTER_G_WITH_STROKE 1E6:LATIN_CAPITAL_LETTER_G_WITH_CARON
   1E7:LATIN_SMALL_LETTER_G_WITH_CARON 1E8:LATIN_CAPITAL_LETTER_K_WITH_CARON
   1E9:LATIN_SMALL_LETTER_K_WITH_CARON 1EA:LATIN_CAPITAL_LETTER_O_WITH_OGONEK
   1EB:LATIN_SMALL_LETTER_O_WITH_OGONEK 1EC:LATIN_CAPITAL_LETTER_O_WITH_OGONEK_AND_MACRON
   1ED:LATIN_SMALL_LETTER_O_WITH_OGONEK_AND_MACRON 1EE:LATIN_CAPITAL_LETTER_EZH_WITH_CARON
   1EF:LATIN_SMALL_LETTER_EZH_WITH_CARON 1F0:LATIN_SMALL_LETTER_J_WITH_CARON
   1F1:LATIN_CAPITAL_LETTER_DZ 1F2:LATIN_CAPITAL_LETTER_D_WITH_SMALL_LETTER_Z
   1F3:LATIN_SMALL_LETTER_DZ 1F4:LATIN_CAPITAL_LETTER_G_WITH_ACUTE
   1F5:LATIN_SMALL_LETTER_G_WITH_ACUTE 1F6:LATIN_CAPITAL_LETTER_HWAIR 1F7:LATIN_CAPITAL_LETTER_WYNN
   1F8:LATIN_CAPITAL_LETTER_N_WITH_GRAVE 1F9:LATIN_SMALL_LETTER_N_WITH_GRAVE
   1FA:LATIN_CAPITAL_LETTER_A_WITH_RING_ABOVE_AND_ACUTE
   1FB:LATIN_SMALL_LETTER_A_WITH_RING_ABOVE_AND_ACUTE 1FC:LATIN_CAPITAL_LETTER_AE_WITH_ACUTE
   1FD:LATIN_SMALL_LETTER_AE_WITH_ACUTE 1FE:LATIN_CAPITAL_LETTER_O_WITH_STROKE_AND_ACUTE
   1FF:LATIN_SMALL_LETTER_O_WITH_STROKE_AND_ACUTE 200:LATIN_CAPITAL_LETTER_A_WITH_DOUBLE_GRAVE
   201:LATIN_SMALL_LETTER_A_WITH_DOUBLE_GRAVE 202:LATIN_CAPITAL_LETTER_A_WITH_INVERTED_BREVE
   203:LATIN_SMALL_LETTER_A_WITH_INVERTED_BREVE 204:LATIN_CAPITAL_LETTER_E_WITH_DOUBLE_GRAVE
   205:LATIN_SMALL_LETTER_E_WITH_DOUBLE_GRAVE 206:LATIN_CAPITAL_LETTER_E_WITH_INVERTED_BREVE
   207:LATIN_SMALL_LETTER_E_WITH_INVERTED_BREVE 208:LATIN_CAPITAL_LETTER_I_WITH_DOUBLE_GRAVE
   209:LATIN_SMALL_LETTER_I_WITH_DOUBLE_GRAVE 20A:LATIN_CAPITAL_LETTER_I_WITH_INVERTED_BREVE
   20B:LATIN_SMALL_LETTER_I_WITH_INVERTED_BREVE 20C:LATIN_CAPITAL_LETTER_O_WITH_DOUBLE_GRAVE
   20D:LATIN_SMALL_LETTER_O_WITH_DOUBLE_GRAVE 20E:LATIN_CAPITAL_LETTER_O_WITH_INVERTED_BREVE
   20F:LATIN_SMALL_LETTER_O_WITH_INVERTED_BREVE 210:LATIN_CAPITAL_LETTER_R_WITH_DOUBLE_GRAVE
   211:LATIN_SMALL_LETTER_R_WITH_DOUBLE_GRAVE 212:LATIN_CAPITAL_LETTER_R_WITH_INVERTED_BREVE
   213:LATIN_SMALL_LETTER_R_WITH_INVERTED_BREVE 214:LATIN_CAPITAL_LETTER_U_WITH_DOUBLE_GRAVE
   215:LATIN_SMALL_LETTER_U_WITH_DOUBLE_GRAVE 216:LATIN_CAPITAL_LETTER_U_WITH_INVERTED_BREVE
   217:LATIN_SMALL_LETTER_U_WITH_INVERTED_BREVE 218:LATIN_CAPITAL_LETTER_S_WITH_COMMA_BELOW
   219:LATIN_SMALL_LETTER_S_WITH_COMMA_BELOW 21A:LATIN_CAPITAL_LETTER_T_WITH_COMMA_BELOW
   21B:LATIN_SMALL_LETTER_T_WITH_COMMA_BELOW 21C:LATIN_CAPITAL_LETTER_YOGH
   21D:LATIN_SMALL_LETTER_YOGH 21E:LATIN_CAPITAL_LETTER_H_WITH_CARON
   21F:LATIN_SMALL_LETTER_H_WITH_CARON 220:LATIN_CAPITAL_LETTER_N_WITH_LONG_RIGHT_LEG
   221:LATIN_SMALL_LETTER_D_WITH_CURL 222:LATIN_CAPITAL_LETTER_OU 223:LATIN_SMALL_LETTER_OU
   224:LATIN_CAPITAL_LETTER_Z_WITH_HOOK 225:LATIN_SMALL_LETTER_Z_WITH_HOOK
   226:LATIN_CAPITAL_LETTER_A_WITH_DOT_ABOVE 227:LATIN_SMALL_LETTER_A_WITH_DOT_ABOVE
   228:LATIN_CAPITAL_LETTER_E_WITH_CEDILLA 229:LATIN_SMALL_LETTER_E_WITH_CEDILLA
   22A:LATIN_CAPITAL_LETTER_O_WITH_DIAERESIS_AND_MACRON
   22B:LATIN_SMALL_LETTER_O_WITH_DIAERESIS_AND_MACRON
   22C:LATIN_CAPITAL_LETTER_O_WITH_TILDE_AND_MACRON 22D:LATIN_SMALL_LETTER_O_WITH_TILDE_AND_MACRON
   22E:LATIN_CAPITAL_LETTER_O_WITH_DOT_ABOVE 22F:LATIN_SMALL_LETTER_O_WITH_DOT_ABOVE
   230:LATIN_CAPITAL_LETTER_O_WITH_DOT_ABOVE_AND_MACRON
   231:LATIN_SMALL_LETTER_O_WITH_DOT_ABOVE_AND_MACRON 232:LATIN_CAPITAL_LETTER_Y_WITH_MACRON
   233:LATIN_SMALL_LETTER_Y_WITH_MACRON 234:LATIN_SMALL_LETTER_L_WITH_CURL
   235:LATIN_SMALL_LETTER_N_WITH_CURL 236:LATIN_SMALL_LETTER_T_WITH_CURL
   237:LATIN_SMALL_LETTER_DOTLESS_J 238:LATIN_SMALL_LETTER_DB_DIGRAPH
   239:LATIN_SMALL_LETTER_QP_DIGRAPH 23A:LATIN_CAPITAL_LETTER_A_WITH_STROKE
   23B:LATIN_CAPITAL_LETTER_C_WITH_STROKE 23C:LATIN_SMALL_LETTER_C_WITH_STROKE
   23D:LATIN_CAPITAL_LETTER_L_WITH_BAR 23E:LATIN_CAPITAL_LETTER_T_WITH_DIAGONAL_STROKE
   23F:LATIN_SMALL_LETTER_S_WITH_SWASH_TAIL 240:LATIN_SMALL_LETTER_Z_WITH_SWASH_TAIL
   241:LATIN_CAPITAL_LETTER_GLOTTAL_STOP 242:LATIN_SMALL_LETTER_GLOTTAL_STOP
   243:LATIN_CAPITAL_LETTER_B_WITH_STROKE 244:LATIN_CAPITAL_LETTER_U_BAR
   245:LATIN_CAPITAL_LETTER_TURNED_V 246:LATIN_CAPITAL_LETTER_E_WITH_STROKE
   247:LATIN_SMALL_LETTER_E_WITH_STROKE 248:LATIN_CAPITAL_LETTER_J_WITH_STROKE
   249:LATIN_SMALL_LETTER_J_WITH_STROKE 24A:LATIN_CAPITAL_LETTER_SMALL_Q_WITH_HOOK_TAIL
   24B:LATIN_SMALL_LETTER_Q_WITH_HOOK_TAIL 24C:LATIN_CAPITAL_LETTER_R_WITH_STROKE
   24D:LATIN_SMALL_LETTER_R_WITH_STROKE 24E:LATIN_CAPITAL_LETTER_Y_WITH_STROKE
   24F:LATIN_SMALL_LETTER_Y_WITH_STROKE 370:GREEK_CAPITAL_LETTER_HETA 371:GREEK_SMALL_LETTER_HETA
   372:GREEK_CAPITAL_LETTER_ARCHAIC_SAMPI 373:GREEK_SMALL_LETTER_ARCHAIC_SAMPI
   374:GREEK_NUMERAL_SIGN 375:GREEK_LOWER_NUMERAL_SIGN 376:GREEK_CAPITAL_LETTER_PAMPHYLIAN_DIGAMMA
   377:GREEK_SMALL_LETTER_PAMPHYLIAN_DIGAMMA 37A:GREEK_YPOGEGRAMMENI
   37B:GREEK_SMALL_REVERSED_LUNATE_SIGMA_SYMBOL 37C:GREEK_SMALL_DOTTED_LUNATE_SIGMA_SYMBOL
   37D:GREEK_SMALL_REVERSED_DOTTED_LUNATE_SIGMA_SYMBOL 37E:GREEK_QUESTION_MARK
   37F:GREEK_CAPITAL_LETTER_YOT 384:GREEK_TONOS 385:GREEK_DIALYTIKA_TONOS
   386:GREEK_CAPITAL_LETTER_ALPHA_WITH_TONOS 387:GREEK_ANO_TELEIA
   388:GREEK_CAPITAL_LETTER_EPSILON_WITH_TONOS 389:GREEK_CAPITAL_LETTER_ETA_WITH_TONOS
   38A:GREEK_CAPITAL_LETTER_IOTA_WITH_TONOS 38C:GREEK_CAPITAL_LETTER_OMICRON_WITH_TONOS
   38E:GREEK_CAPITAL_LETTER_UPSILON_WITH_TONOS 38F:GREEK_CAPITAL_LETTER_OMEGA_WITH_TONOS
   390:GREEK_SMALL_LETTER_IOTA_WITH_DIALYTIKA_AND_TONOS 391:GREEK_CAPITAL_LETTER_ALPHA
   392:GREEK_CAPITAL_LETTER_BETA 393:GREEK_CAPITAL_LETTER_GAMMA 394:GREEK_CAPITAL_LETTER_DELTA
   395:GREEK_CAPITAL_LETTER_EPSILON 396:GREEK_CAPITAL_LETTER_ZETA 397:GREEK_CAPITAL_LETTER_ETA
   398:GREEK_CAPITAL_LETTER_THETA 399:GREEK_CAPITAL_LETTER_IOTA 39A:GREEK_CAPITAL_LETTER_KAPPA
   39B:GREEK_CAPITAL_LETTER_LAMDA 39C:GREEK_CAPITAL_LETTER_MU 39D:GREEK_CAPITAL_LETTER_NU
   39E:GREEK_CAPITAL_LETTER_XI 39F:GREEK_CAPITAL_LETTER_OMICRON 3A0:GREEK_CAPITAL_LETTER_PI
   3A1:GREEK_CAPITAL_LETTER_RHO 3A3:GREEK_CAPITAL_LETTER_SIGMA 3A4:GREEK_CAPITAL_LETTER_TAU
   3A5:GREEK_CAPITAL_LETTER_UPSILON 3A6:GREEK_CAPITAL_LETTER_PHI 3A7:GREEK_CAPITAL_LETTER_CHI
   3A8:GREEK_CAPITAL_LETTER_PSI 3A9:GREEK_CAPITAL_LETTER_OMEGA
   3AA:GREEK_CAPITAL_LETTER_IOTA_WITH_DIALYTIKA 3AB:GREEK_CAPITAL_LETTER_UPSILON_WITH_DIALYTIKA
   3AC:GREEK_SMALL_LETTER_ALPHA_WITH_TONOS 3AD:GREEK_SMALL_LETTER_EPSILON_WITH_TONOS
   3AE:GREEK_SMALL_LETTER_ETA_WITH_TONOS 3AF:GREEK_SMALL_LETTER_IOTA_WITH_TONOS
   3B0:GREEK_SMALL_LETTER_UPSILON_WITH_DIALYTIKA_AND_TONOS 3B1:GREEK_SMALL_LETTER_ALPHA
   3B2:GREEK_SMALL_LETTER_BETA 3B3:GREEK_SMALL_LETTER_GAMMA 3B4:GREEK_SMALL_LETTER_DELTA
   3B5:GREEK_SMALL_LETTER_EPSILON 3B6:GREEK_SMALL_LETTER_ZETA 3B7:GREEK_SMALL_LETTER_ETA
   3B8:GREEK_SMALL_LETTER_THETA 3B9:GREEK_SMALL_LETTER_IOTA 3BA:GREEK_SMALL_LETTER_KAPPA
   3BB:GREEK_SMALL_LETTER_LAMDA 3BC:GREEK_SMALL_LETTER_MU 3BD:GREEK_SMALL_LETTER_NU
   3BE:GREEK_SMALL_LETTER_XI 3BF:GREEK_SMALL_LETTER_OMICRON 3C0:GREEK_SMALL_LETTER_PI
   3C1:GREEK_SMALL_LETTER_RHO 3C2:GREEK_SMALL_LETTER_FINAL_SIGMA 3C3:GREEK_SMALL_LETTER_SIGMA
   3C4:GREEK_SMALL_LETTER_TAU 3C5:GREEK_SMALL_LETTER_UPSILON 3C6:GREEK_SMALL_LETTER_PHI
   3C7:GREEK_SMALL_LETTER_CHI 3C8:GREEK_SMALL_LETTER_PSI 3C9:GREEK_SMALL_LETTER_OMEGA
   3CA:GREEK_SMALL_LETTER_IOTA_WITH_DIALYTIKA 3CB:GREEK_SMALL_LETTER_UPSILON_WITH_DIALYTIKA
   3CC:GREEK_SMALL_LETTER_OMICRON_WITH_TONOS 3CD:GREEK_SMALL_LETTER_UPSILON_WITH_TONOS
   3CE:GREEK_SMALL_LETTER_OMEGA_WITH_TONOS 3CF:GREEK_CAPITAL_KAI_SYMBOL 3D0:GREEK_BETA_SYMBOL
   3D1:GREEK_THETA_SYMBOL 3D2:GREEK_UPSILON_WITH_HOOK_SYMBOL
   3D3:GREEK_UPSILON_WITH_ACUTE_AND_HOOK_SYMBOL 3D4:GREEK_UPSILON_WITH_DIAERESIS_AND_HOOK_SYMBOL
   3D5:GREEK_PHI_SYMBOL 3D6:GREEK_PI_SYMBOL 3D7:GREEK_KAI_SYMBOL 3D8:GREEK_LETTER_ARCHAIC_KOPPA
   3D9:GREEK_SMALL_LETTER_ARCHAIC_KOPPA 3DA:GREEK_LETTER_STIGMA 3DB:GREEK_SMALL_LETTER_STIGMA
   3DC:GREEK_LETTER_DIGAMMA 3DD:GREEK_SMALL_LETTER_DIGAMMA 3DE:GREEK_LETTER_KOPPA
   3DF:GREEK_SMALL_LETTER_KOPPA 3E0:GREEK_LETTER_SAMPI 3E1:GREEK_SMALL_LETTER_SAMPI
   3E2:COPTIC_CAPITAL_LETTER_SHEI 3E3:COPTIC_SMALL_LETTER_SHEI 3E4:COPTIC_CAPITAL_LETTER_FEI
   3E5:COPTIC_SMALL_LETTER_FEI 3E6:COPTIC_CAPITAL_LETTER_KHEI 3E7:COPTIC_SMALL_LETTER_KHEI
   3E8:COPTIC_CAPITAL_LETTER_HORI 3E9:COPTIC_SMALL_LETTER_HORI 3EA:COPTIC_CAPITAL_LETTER_GANGIA
   3EB:COPTIC_SMALL_LETTER_GANGIA 3EC:COPTIC_CAPITAL_LETTER_SHIMA 3ED:COPTIC_SMALL_LETTER_SHIMA
   3EE:COPTIC_CAPITAL_LETTER_DEI 3EF:COPTIC_SMALL_LETTER_DEI 3F0:GREEK_KAPPA_SYMBOL
   3F1:GREEK_RHO_SYMBOL 3F2:GREEK_LUNATE_SIGMA_SYMBOL 3F3:GREEK_LETTER_YOT
   3F4:GREEK_CAPITAL_THETA_SYMBOL 3F5:GREEK_LUNATE_EPSILON_SYMBOL
   3F6:GREEK_REVERSED_LUNATE_EPSILON_SYMBOL 3F7:GREEK_CAPITAL_LETTER_SHO 3F8:GREEK_SMALL_LETTER_SHO
   3F9:GREEK_CAPITAL_LUNATE_SIGMA_SYMBOL 3FA:GREEK_CAPITAL_LETTER_SAN 3FB:GREEK_SMALL_LETTER_SAN
   3FC:GREEK_RHO_WITH_STROKE_SYMBOL 3FD:GREEK_CAPITAL_REVERSED_LUNATE_SIGMA_SYMBOL
   3FE:GREEK_CAPITAL_DOTTED_LUNATE_SIGMA_SYMBOL
   3FF:GREEK_CAPITAL_REVERSED_DOTTED_LUNATE_SIGMA_SYMBOL 400:CYRILLIC_CAPITAL_LETTER_IE_WITH_GRAVE
   401:CYRILLIC_CAPITAL_LETTER_IO 402:CYRILLIC_CAPITAL_LETTER_DJE 403:CYRILLIC_CAPITAL_LETTER_GJE
   404:CYRILLIC_CAPITAL_LETTER_UKRAINIAN_IE 405:CYRILLIC_CAPITAL_LETTER_DZE
   406:CYRILLIC_CAPITAL_LETTER_BYELORUSSIAN-UKRAINIAN_I 407:CYRILLIC_CAPITAL_LETTER_YI
   408:CYRILLIC_CAPITAL_LETTER_JE 409:CYRILLIC_CAPITAL_LETTER_LJE 40A:CYRILLIC_CAPITAL_LETTER_NJE
   40B:CYRILLIC_CAPITAL_LETTER_TSHE 40C:CYRILLIC_CAPITAL_LETTER_KJE
   40D:CYRILLIC_CAPITAL_LETTER_I_WITH_GRAVE 40E:CYRILLIC_CAPITAL_LETTER_SHORT_U
   40F:CYRILLIC_CAPITAL_LETTER_DZHE 410:CYRILLIC_CAPITAL_LETTER_A 411:CYRILLIC_CAPITAL_LETTER_BE
   412:CYRILLIC_CAPITAL_LETTER_VE 413:CYRILLIC_CAPITAL_LETTER_GHE 414:CYRILLIC_CAPITAL_LETTER_DE
   415:CYRILLIC_CAPITAL_LETTER_IE 416:CYRILLIC_CAPITAL_LETTER_ZHE 417:CYRILLIC_CAPITAL_LETTER_ZE
   418:CYRILLIC_CAPITAL_LETTER_I 419:CYRILLIC_CAPITAL_LETTER_SHORT_I 41A:CYRILLIC_CAPITAL_LETTER_KA
   41B:CYRILLIC_CAPITAL_LETTER_EL 41C:CYRILLIC_CAPITAL_LETTER_EM 41D:CYRILLIC_CAPITAL_LETTER_EN
   41E:CYRILLIC_CAPITAL_LETTER_O 41F:CYRILLIC_CAPITAL_LETTER_PE 420:CYRILLIC_CAPITAL_LETTER_ER
   421:CYRILLIC_CAPITAL_LETTER_ES 422:CYRILLIC_CAPITAL_LETTER_TE 423:CYRILLIC_CAPITAL_LETTER_U
   424:CYRILLIC_CAPITAL_LETTER_EF 425:CYRILLIC_CAPITAL_LETTER_HA 426:CYRILLIC_CAPITAL_LETTER_TSE
   427:CYRILLIC_CAPITAL_LETTER_CHE 428:CYRILLIC_CAPITAL_LETTER_SHA 429:CYRILLIC_CAPITAL_LETTER_SHCHA
   42A:CYRILLIC_CAPITAL_LETTER_HARD_SIGN 42B:CYRILLIC_CAPITAL_LETTER_YERU
   42C:CYRILLIC_CAPITAL_LETTER_SOFT_SIGN 42D:CYRILLIC_CAPITAL_LETTER_E
   42E:CYRILLIC_CAPITAL_LETTER_YU 42F:CYRILLIC_CAPITAL_LETTER_YA 430:CYRILLIC_SMALL_LETTER_A
   431:CYRILLIC_SMALL_LETTER_BE 432:CYRILLIC_SMALL_LETTER_VE 433:CYRILLIC_SMALL_LETTER_GHE
   434:CYRILLIC_SMALL_LETTER_DE 435:CYRILLIC_SMALL_LETTER_IE 436:CYRILLIC_SMALL_LETTER_ZHE
   437:CYRILLIC_SMALL_LETTER_ZE 438:CYRILLIC_SMALL_LETTER_I 439:CYRILLIC_SMALL_LETTER_SHORT_I
   43A:CYRILLIC_SMALL_LETTER_KA 43B:CYRILLIC_SMALL_LETTER_EL 43C:CYRILLIC_SMALL_LETTER_EM
   43D:CYRILLIC_SMALL_LETTER_EN 43E:CYRILLIC_SMALL_LETTER_O 43F:CYRILLIC_SMALL_LETTER_PE
   440:CYRILLIC_SMALL_LETTER_ER 441:CYRILLIC_SMALL_LETTER_ES 442:CYRILLIC_SMALL_LETTER_TE
   443:CYRILLIC_SMALL_LETTER_U 444:CYRILLIC_SMALL_LETTER_EF 445:CYRILLIC_SMALL_LETTER_HA
   446:CYRILLIC_SMALL_LETTER_TSE 447:CYRILLIC_SMALL_LETTER_CHE 448:CYRILLIC_SMALL_LETTER_SHA
   449:CYRILLIC_SMALL_LETTER_SHCHA 44A:CYRILLIC_SMALL_LETTER_HARD_SIGN
   44B:CYRILLIC_SMALL_LETTER_YERU 44C:CYRILLIC_SMALL_LETTER_SOFT_SIGN 44D:CYRILLIC_SMALL_LETTER_E
   44E:CYRILLIC_SMALL_LETTER_YU 44F:CYRILLIC_SMALL_LETTER_YA 450:CYRILLIC_SMALL_LETTER_IE_WITH_GRAVE
   451:CYRILLIC_SMALL_LETTER_IO 452:CYRILLIC_SMALL_LETTER_DJE 453:CYRILLIC_SMALL_LETTER_GJE
   454:CYRILLIC_SMALL_LETTER_UKRAINIAN_IE 455:CYRILLIC_SMALL_LETTER_DZE
   456:CYRILLIC_SMALL_LETTER_BYELORUSSIAN-UKRAINIAN_I 457:CYRILLIC_SMALL_LETTER_YI
   458:CYRILLIC_SMALL_LETTER_JE 459:CYRILLIC_SMALL_LETTER_LJE 45A:CYRILLIC_SMALL_LETTER_NJE
   45B:CYRILLIC_SMALL_LETTER_TSHE 45C:CYRILLIC_SMALL_LETTER_KJE
   45D:CYRILLIC_SMALL_LETTER_I_WITH_GRAVE 45E:CYRILLIC_SMALL_LETTER_SHORT_U
   45F:CYRILLIC_SMALL_LETTER_DZHE 460:CYRILLIC_CAPITAL_LETTER_OMEGA 461:CYRILLIC_SMALL_LETTER_OMEGA
   462:CYRILLIC_CAPITAL_LETTER_YAT 463:CYRILLIC_SMALL_LETTER_YAT
   464:CYRILLIC_CAPITAL_LETTER_IOTIFIED_E 465:CYRILLIC_SMALL_LETTER_IOTIFIED_E
   466:CYRILLIC_CAPITAL_LETTER_LITTLE_YUS 467:CYRILLIC_SMALL_LETTER_LITTLE_YUS
   468:CYRILLIC_CAPITAL_LETTER_IOTIFIED_LITTLE_YUS 469:CYRILLIC_SMALL_LETTER_IOTIFIED_LITTLE_YUS
   46A:CYRILLIC_CAPITAL_LETTER_BIG_YUS 46B:CYRILLIC_SMALL_LETTER_BIG_YUS
   46C:CYRILLIC_CAPITAL_LETTER_IOTIFIED_BIG_YUS 46D:CYRILLIC_SMALL_LETTER_IOTIFIED_BIG_YUS
   46E:CYRILLIC_CAPITAL_LETTER_KSI 46F:CYRILLIC_SMALL_LETTER_KSI 470:CYRILLIC_CAPITAL_LETTER_PSI
   471:CYRILLIC_SMALL_LETTER_PSI 472:CYRILLIC_CAPITAL_LETTER_FITA 473:CYRILLIC_SMALL_LETTER_FITA
   474:CYRILLIC_CAPITAL_LETTER_IZHITSA 475:CYRILLIC_SMALL_LETTER_IZHITSA
   476:CYRILLIC_CAPITAL_LETTER_IZHITSA_WITH_DOUBLE_GRAVE_ACCENT
   477:CYRILLIC_SMALL_LETTER_IZHITSA_WITH_DOUBLE_GRAVE_ACCENT 478:CYRILLIC_CAPITAL_LETTER_UK
   479:CYRILLIC_SMALL_LETTER_UK 47A:CYRILLIC_CAPITAL_LETTER_ROUND_OMEGA
   47B:CYRILLIC_SMALL_LETTER_ROUND_OMEGA 47C:CYRILLIC_CAPITAL_LETTER_OMEGA_WITH_TITLO
   47D:CYRILLIC_SMALL_LETTER_OMEGA_WITH_TITLO 47E:CYRILLIC_CAPITAL_LETTER_OT
   47F:CYRILLIC_SMALL_LETTER_OT 480:CYRILLIC_CAPITAL_LETTER_KOPPA 481:CYRILLIC_SMALL_LETTER_KOPPA
   482:CYRILLIC_THOUSANDS_SIGN 483:COMBINING_CYRILLIC_TITLO 484:COMBINING_CYRILLIC_PALATALIZATION
   485:COMBINING_CYRILLIC_DASIA_PNEUMATA 486:COMBINING_CYRILLIC_PSILI_PNEUMATA
   487:COMBINING_CYRILLIC_POKRYTIE 488:COMBINING_CYRILLIC_HUNDRED_THOUSANDS_SIGN
   489:COMBINING_CYRILLIC_MILLIONS_SIGN 48A:CYRILLIC_CAPITAL_LETTER_SHORT_I_WITH_TAIL
   48B:CYRILLIC_SMALL_LETTER_SHORT_I_WITH_TAIL 48C:CYRILLIC_CAPITAL_LETTER_SEMISOFT_SIGN
   48D:CYRILLIC_SMALL_LETTER_SEMISOFT_SIGN 48E:CYRILLIC_CAPITAL_LETTER_ER_WITH_TICK
   48F:CYRILLIC_SMALL_LETTER_ER_WITH_TICK 490:CYRILLIC_CAPITAL_LETTER_GHE_WITH_UPTURN
   491:CYRILLIC_SMALL_LETTER_GHE_WITH_UPTURN 492:CYRILLIC_CAPITAL_LETTER_GHE_WITH_STROKE
   493:CYRILLIC_SMALL_LETTER_GHE_WITH_STROKE 494:CYRILLIC_CAPITAL_LETTER_GHE_WITH_MIDDLE_HOOK
   495:CYRILLIC_SMALL_LETTER_GHE_WITH_MIDDLE_HOOK 496:CYRILLIC_CAPITAL_LETTER_ZHE_WITH_DESCENDER
   497:CYRILLIC_SMALL_LETTER_ZHE_WITH_DESCENDER 498:CYRILLIC_CAPITAL_LETTER_ZE_WITH_DESCENDER
   499:CYRILLIC_SMALL_LETTER_ZE_WITH_DESCENDER 49A:CYRILLIC_CAPITAL_LETTER_KA_WITH_DESCENDER
   49B:CYRILLIC_SMALL_LETTER_KA_WITH_DESCENDER 49C:CYRILLIC_CAPITAL_LETTER_KA_WITH_VERTICAL_STROKE
   49D:CYRILLIC_SMALL_LETTER_KA_WITH_VERTICAL_STROKE 49E:CYRILLIC_CAPITAL_LETTER_KA_WITH_STROKE
   49F:CYRILLIC_SMALL_LETTER_KA_WITH_STROKE 4A0:CYRILLIC_CAPITAL_LETTER_BASHKIR_KA
   4A1:CYRILLIC_SMALL_LETTER_BASHKIR_KA 4A2:CYRILLIC_CAPITAL_LETTER_EN_WITH_DESCENDER
   4A3:CYRILLIC_SMALL_LETTER_EN_WITH_DESCENDER 4A4:CYRILLIC_CAPITAL_LIGATURE_EN_GHE
   4A5:CYRILLIC_SMALL_LIGATURE_EN_GHE 4A6:CYRILLIC_CAPITAL_LETTER_PE_WITH_MIDDLE_HOOK
   4A7:CYRILLIC_SMALL_LETTER_PE_WITH_MIDDLE_HOOK 4A8:CYRILLIC_CAPITAL_LETTER_ABKHASIAN_HA
   4A9:CYRILLIC_SMALL_LETTER_ABKHASIAN_HA 4AA:CYRILLIC_CAPITAL_LETTER_ES_WITH_DESCENDER
   4AB:CYRILLIC_SMALL_LETTER_ES_WITH_DESCENDER 4AC:CYRILLIC_CAPITAL_LETTER_TE_WITH_DESCENDER
   4AD:CYRILLIC_SMALL_LETTER_TE_WITH_DESCENDER 4AE:CYRILLIC_CAPITAL_LETTER_STRAIGHT_U
   4AF:CYRILLIC_SMALL_LETTER_STRAIGHT_U 4B0:CYRILLIC_CAPITAL_LETTER_STRAIGHT_U_WITH_STROKE
   4B1:CYRILLIC_SMALL_LETTER_STRAIGHT_U_WITH_STROKE 4B2:CYRILLIC_CAPITAL_LETTER_HA_WITH_DESCENDER
   4B3:CYRILLIC_SMALL_LETTER_HA_WITH_DESCENDER 4B4:CYRILLIC_CAPITAL_LIGATURE_TE_TSE
   4B5:CYRILLIC_SMALL_LIGATURE_TE_TSE 4B6:CYRILLIC_CAPITAL_LETTER_CHE_WITH_DESCENDER
   4B7:CYRILLIC_SMALL_LETTER_CHE_WITH_DESCENDER 4B8:CYRILLIC_CAPITAL_LETTER_CHE_WITH_VERTICAL_STROKE
   4B9:CYRILLIC_SMALL_LETTER_CHE_WITH_VERTICAL_STROKE 4BA:CYRILLIC_CAPITAL_LETTER_SHHA
   4BB:CYRILLIC_SMALL_LETTER_SHHA 4BC:CYRILLIC_CAPITAL_LETTER_ABKHASIAN_CHE
   4BD:CYRILLIC_SMALL_LETTER_ABKHASIAN_CHE 4BE:CYRILLIC_CAPITAL_LETTER_ABKHASIAN_CHE_WITH_DESCENDER
   4BF:CYRILLIC_SMALL_LETTER_ABKHASIAN_CHE_WITH_DESCENDER 4C0:CYRILLIC_LETTER_PALOCHKA
   4C1:CYRILLIC_CAPITAL_LETTER_ZHE_WITH_BREVE 4C2:CYRILLIC_SMALL_LETTER_ZHE_WITH_BREVE
   4C3:CYRILLIC_CAPITAL_LETTER_KA_WITH_HOOK 4C4:CYRILLIC_SMALL_LETTER_KA_WITH_HOOK
   4C5:CYRILLIC_CAPITAL_LETTER_EL_WITH_TAIL 4C6:CYRILLIC_SMALL_LETTER_EL_WITH_TAIL
   4C7:CYRILLIC_CAPITAL_LETTER_EN_WITH_HOOK 4C8:CYRILLIC_SMALL_LETTER_EN_WITH_HOOK
   4C9:CYRILLIC_CAPITAL_LETTER_EN_WITH_TAIL 4CA:CYRILLIC_SMALL_LETTER_EN_WITH_TAIL
   4CB:CYRILLIC_CAPITAL_LETTER_KHAKASSIAN_CHE 4CC:CYRILLIC_SMALL_LETTER_KHAKASSIAN_CHE
   4CD:CYRILLIC_CAPITAL_LETTER_EM_WITH_TAIL 4CE:CYRILLIC_SMALL_LETTER_EM_WITH_TAIL
   4CF:CYRILLIC_SMALL_LETTER_PALOCHKA 4D0:CYRILLIC_CAPITAL_LETTER_A_WITH_BREVE
   4D1:CYRILLIC_SMALL_LETTER_A_WITH_BREVE 4D2:CYRILLIC_CAPITAL_LETTER_A_WITH_DIAERESIS
   4D3:CYRILLIC_SMALL_LETTER_A_WITH_DIAERESIS 4D4:CYRILLIC_CAPITAL_LIGATURE_A_IE
   4D5:CYRILLIC_SMALL_LIGATURE_A_IE 4D6:CYRILLIC_CAPITAL_LETTER_IE_WITH_BREVE
   4D7:CYRILLIC_SMALL_LETTER_IE_WITH_BREVE 4D8:CYRILLIC_CAPITAL_LETTER_SCHWA
   4D9:CYRILLIC_SMALL_LETTER_SCHWA 4DA:CYRILLIC_CAPITAL_LETTER_SCHWA_WITH_DIAERESIS
   4DB:CYRILLIC_SMALL_LETTER_SCHWA_WITH_DIAERESIS 4DC:CYRILLIC_CAPITAL_LETTER_ZHE_WITH_DIAERESIS
   4DD:CYRILLIC_SMALL_LETTER_ZHE_WITH_DIAERESIS 4DE:CYRILLIC_CAPITAL_LETTER_ZE_WITH_DIAERESIS
   4DF:CYRILLIC_SMALL_LETTER_ZE_WITH_DIAERESIS 4E0:CYRILLIC_CAPITAL_LETTER_ABKHASIAN_DZE
   4E1:CYRILLIC_SMALL_LETTER_ABKHASIAN_DZE 4E2:CYRILLIC_CAPITAL_LETTER_I_WITH_MACRON
   4E3:CYRILLIC_SMALL_LETTER_I_WITH_MACRON 4E4:CYRILLIC_CAPITAL_LETTER_I_WITH_DIAERESIS
   4E5:CYRILLIC_SMALL_LETTER_I_WITH_DIAERESIS 4E6:CYRILLIC_CAPITAL_LETTER_O_WITH_DIAERESIS
   4E7:CYRILLIC_SMALL_LETTER_O_WITH_DIAERESIS 4E8:CYRILLIC_CAPITAL_LETTER_BARRED_O
   4E9:CYRILLIC_SMALL_LETTER_BARRED_O 4EA:CYRILLIC_CAPITAL_LETTER_BARRED_O_WITH_DIAERESIS
   4EB:CYRILLIC_SMALL_LETTER_BARRED_O_WITH_DIAERESIS 4EC:CYRILLIC_CAPITAL_LETTER_E_WITH_DIAERESIS
   4ED:CYRILLIC_SMALL_LETTER_E_WITH_DIAERESIS 4EE:CYRILLIC_CAPITAL_LETTER_U_WITH_MACRON
   4EF:CYRILLIC_SMALL_LETTER_U_WITH_MACRON 4F0:CYRILLIC_CAPITAL_LETTER_U_WITH_DIAERESIS
   4F1:CYRILLIC_SMALL_LETTER_U_WITH_DIAERESIS 4F2:CYRILLIC_CAPITAL_LETTER_U_WITH_DOUBLE_ACUTE
   4F3:CYRILLIC_SMALL_LETTER_U_WITH_DOUBLE_ACUTE 4F4:CYRILLIC_CAPITAL_LETTER_CHE_WITH_DIAERESIS
   4F5:CYRILLIC_SMALL_LETTER_CHE_WITH_DIAERESIS 4F6:CYRILLIC_CAPITAL_LETTER_GHE_WITH_DESCENDER
   4F7:CYRILLIC_SMALL_LETTER_GHE_WITH_DESCENDER 4F8:CYRILLIC_CAPITAL_LETTER_YERU_WITH_DIAERESIS
   4F9:CYRILLIC_SMALL_LETTER_YERU_WITH_DIAERESIS
   4FA:CYRILLIC_CAPITAL_LETTER_GHE_WITH_STROKE_AND_HOOK
   4FB:CYRILLIC_SMALL_LETTER_GHE_WITH_STROKE_AND_HOOK 4FC:CYRILLIC_CAPITAL_LETTER_HA_WITH_HOOK
   4FD:CYRILLIC_SMALL_LETTER_HA_WITH_HOOK 4FE:CYRILLIC_CAPITAL_LETTER_HA_WITH_STROKE
   4FF:CYRILLIC_SMALL_LETTER_HA_WITH_STROKE 2000:EN_QUAD 2001:EM_QUAD 2002:EN_SPACE 2003:EM_SPACE
   2004:THREE-PER-EM_SPACE 2005:FOUR-PER-EM_SPACE 2006:SIX-PER-EM_SPACE 2007:FIGURE_SPACE
   2008:PUNCTUATION_SPACE 2009:THIN_SPACE 200A:HAIR_SPACE 200B:ZERO_WIDTH_SPACE 200B:ZWSP
   200C:ZERO_WIDTH_NON-JOINER 200C:ZWNJ 200D:ZERO_WIDTH_JOINER 200D:ZWJ 200E:LEFT-TO-RIGHT_MARK
   200E:LRM 200F:RIGHT-TO-LEFT_MARK 200F:RLM 2010:HYPHEN 2011:NON-BREAKING_HYPHEN 2012:FIGURE_DASH
   2013:EN_DASH 2014:EM_DASH 2015:HORIZONTAL_BAR 2016:DOUBLE_VERTICAL_LINE 2017:DOUBLE_LOW_LINE
   2018:LEFT_SINGLE_QUOTATION_MARK 2019:RIGHT_SINGLE_QUOTATION_MARK 201A:SINGLE_LOW-9_QUOTATION_MARK
   201B:SINGLE_HIGH-REVERSED-9_QUOTATION_MARK 201C:LEFT_DOUBLE_QUOTATION_MARK
   201D:RIGHT_DOUBLE_QUOTATION_MARK 201E:DOUBLE_LOW-9_QUOTATION_MARK
   201F:DOUBLE_HIGH-REVERSED-9_QUOTATION_MARK 2020:DAGGER 2021:DOUBLE_DAGGER 2022:BULLET
   2023:TRIANGULAR_BULLET 2024:ONE_DOT_LEADER 2025:TWO_DOT_LEADER 2026:HORIZONTAL_ELLIPSIS
   2027:HYPHENATION_POINT 2028:LINE_SEPARATOR 2029:PARAGRAPH_SEPARATOR 202A:LEFT-TO-RIGHT_EMBEDDING
   202A:LRE 202B:RIGHT-TO-LEFT_EMBEDDING 202B:RLE 202C:POP_DIRECTIONAL_FORMATTING 202C:PDF
   202D:LEFT-TO-RIGHT_OVERRIDE 202D:LRO 202E:RIGHT-TO-LEFT_OVERRIDE 202E:RLO
   202F:NARROW_NO-BREAK_SPACE 202F:NNBSP 2030:PER_MILLE_SIGN 2031:PER_TEN_THOUSAND_SIGN 2032:PRIME
   2033:DOUBLE_PRIME 2034:TRIPLE_PRIME 2035:REVERSED_PRIME 2036:REVERSED_DOUBLE_PRIME
   2037:REVERSED_TRIPLE_PRIME 2038:CARET 2039:SINGLE_LEFT-POINTING_ANGLE_QUOTATION_MARK
   203A:SINGLE_RIGHT-POINTING_ANGLE_QUOTATION_MARK 203B:REFERENCE_MARK 203C:DOUBLE_EXCLAMATION_MARK
   203D:INTERROBANG 203E:OVERLINE 203F:UNDERTIE 2040:CHARACTER_TIE 2041:CARET_INSERTION_POINT
   2042:ASTERISM 2043:HYPHEN_BULLET 2044:FRACTION_SLASH 2045:LEFT_SQUARE_BRACKET_WITH_QUILL
   2046:RIGHT_SQUARE_BRACKET_WITH_QUILL 2047:DOUBLE_QUESTION_MARK 2048:QUESTION_EXCLAMATION_MARK
   2049:EXCLAMATION_QUESTION_MARK 204A:TIRONIAN_SIGN_ET 204B:REVERSED_PILCROW_SIGN
   204C:BLACK_LEFTWARDS_BULLET 204D:BLACK_RIGHTWARDS_BULLET 204E:LOW_ASTERISK
   204F:REVERSED_SEMICOLON 2050:CLOSE_UP 2051:TWO_ASTERISKS_ALIGNED_VERTICALLY
   2052:COMMERCIAL_MINUS_SIGN 2053:SWUNG_DASH 2054:INVERTED_UNDERTIE 2055:FLOWER_PUNCTUATION_MARK
   2056:THREE_DOT_PUNCTUATION 2057:QUADRUPLE_PRIME 2058:FOUR_DOT_PUNCTUATION
   2059:FIVE_DOT_PUNCTUATION 205A:TWO_DOT_PUNCTUATION 205B:FOUR_DOT_MARK 205C:DOTTED_CROSS
   205D:TRICOLON 205E:VERTICAL_FOUR_DOTS 205F:MEDIUM_MATHEMATICAL_SPACE 205F:MMSP 2060:WORD_JOINER
   2060:WJ 2061:FUNCTION_APPLICATION 2062:INVISIBLE_TIMES 2063:INVISIBLE_SEPARATOR
   2064:INVISIBLE_PLUS 2066:LEFT-TO-RIGHT_ISOLATE 2066:LRI 2067:RIGHT-TO-LEFT_ISOLATE 2067:RLI
   2068:FIRST_STRONG_ISOLATE 2068:FSI 2069:POP_DIRECTIONAL_ISOLATE 2069:PDI
   206A:INHIBIT_SYMMETRIC_SWAPPING 206B:ACTIVATE_SYMMETRIC_SWAPPING 206C:INHIBIT_ARABIC_FORM_SHAPING
   206D:ACTIVATE_ARABIC_FORM_SHAPING 206E:NATIONAL_DIGIT_SHAPES 206F:NOMINAL_DIGIT_SHAPES
   20A0:EURO-CURRENCY_SIGN 20A1:COLON_SIGN 20A2:CRUZEIRO_SIGN 20A3:FRENCH_FRANC_SIGN 20A4:LIRA_SIGN
   20A5:MILL_SIGN 20A6:NAIRA_SIGN 20A7:PESETA_SIGN 20A8:RUPEE_SIGN 20A9:WON_SIGN
   20AA:NEW_SHEQEL_SIGN 20AB:DONG_SIGN 20AC:EURO_SIGN 20AD:KIP_SIGN 20AE:TUGRIK_SIGN
   20AF:DRACHMA_SIGN 20B0:GERMAN_PENNY_SIGN 20B1:PESO_SIGN 20B2:GUARANI_SIGN 20B3:AUSTRAL_SIGN
   20B4:HRYVNIA_SIGN 20B5:CEDI_SIGN 20B6:LIVRE_TOURNOIS_SIGN 20B7:SPESMILO_SIGN 20B8:TENGE_SIGN
   20B9:INDIAN_RUPEE_SIGN 20BA:TURKISH_LIRA_SIGN 20BB:NORDIC_MARK_SIGN 20BC:MANAT_SIGN
   20BD:RUBLE_SIGN 20BE:LARI_SIGN 20BF:BITCOIN_SIGN 20C0:SOM_SIGN 2190:LEFTWARDS_ARROW
   2191:UPWARDS_ARROW 2192:RIGHTWARDS_ARROW 2193:DOWNWARDS_ARROW 2194:LEFT_RIGHT_ARROW
   2195:UP_DOWN_ARROW 2196:NORTH_WEST_ARROW 2197:NORTH_EAST_ARROW 2198:SOUTH_EAST_ARROW
   2199:SOUTH_WEST_ARROW 219A:LEFTWARDS_ARROW_WITH_STROKE 219B:RIGHTWARDS_ARROW_WITH_STROKE
   219C:LEFTWARDS_WAVE_ARROW 219D:RIGHTWARDS_WAVE_ARROW 219E:LEFTWARDS_TWO_HEADED_ARROW
   219F:UPWARDS_TWO_HEADED_ARROW 21A0:RIGHTWARDS_TWO_HEADED_ARROW 21A1:DOWNWARDS_TWO_HEADED_ARROW
   21A2:LEFTWARDS_ARROW_WITH_TAIL 21A3:RIGHTWARDS_ARROW_WITH_TAIL 21A4:LEFTWARDS_ARROW_FROM_BAR
   21A5:UPWARDS_ARROW_FROM_BAR 21A6:RIGHTWARDS_ARROW_FROM_BAR 21A7:DOWNWARDS_ARROW_FROM_BAR
   21A8:UP_DOWN_ARROW_WITH_BASE 21A9:LEFTWARDS_ARROW_WITH_HOOK 21AA:RIGHTWARDS_ARROW_WITH_HOOK
   21AB:LEFTWARDS_ARROW_WITH_LOOP 21AC:RIGHTWARDS_ARROW_WITH_LOOP 21AD:LEFT_RIGHT_WAVE_ARROW
   21AE:LEFT_RIGHT_ARROW_WITH_STROKE 21AF:DOWNWARDS_ZIGZAG_ARROW
   21B0:UPWARDS_ARROW_WITH_TIP_LEFTWARDS 21B1:UPWARDS_ARROW_WITH_TIP_RIGHTWARDS
   21B2:DOWNWARDS_ARROW_WITH_TIP_LEFTWARDS 21B3:DOWNWARDS_ARROW_WITH_TIP_RIGHTWARDS
   21B4:RIGHTWARDS_ARROW_WITH_CORNER_DOWNWARDS 21B5:DOWNWARDS_ARROW_WITH_CORNER_LEFTWARDS
   21B6:ANTICLOCKWISE_TOP_SEMICIRCLE_ARROW 21B7:CLOCKWISE_TOP_SEMICIRCLE_ARROW
   21B8:NORTH_WEST_ARROW_TO_LONG_BAR 21B9:LEFTWARDS_ARROW_TO_BAR_OVER_RIGHTWARDS_ARROW_TO_BAR
   21BA:ANTICLOCKWISE_OPEN_CIRCLE_ARROW 21BB:CLOCKWISE_OPEN_CIRCLE_ARROW
   21BC:LEFTWARDS_HARPOON_WITH_BARB_UPWARDS 21BD:LEFTWARDS_HARPOON_WITH_BARB_DOWNWARDS
   21BE:UPWARDS_HARPOON_WITH_BARB_RIGHTWARDS 21BF:UPWARDS_HARPOON_WITH_BARB_LEFTWARDS
   21C0:RIGHTWARDS_HARPOON_WITH_BARB_UPWARDS 21C1:RIGHTWARDS_HARPOON_WITH_BARB_DOWNWARDS
   21C2:DOWNWARDS_HARPOON_WITH_BARB_RIGHTWARDS 21C3:DOWNWARDS_HARPOON_WITH_BARB_LEFTWARDS
   21C4:RIGHTWARDS_ARROW_OVER_LEFTWARDS_ARROW 21C5:UPWARDS_ARROW_LEFTWARDS_OF_DOWNWARDS_ARROW
   21C6:LEFTWARDS_ARROW_OVER_RIGHTWARDS_ARROW 21C7:LEFTWARDS_PAIRED_ARROWS
   21C8:UPWARDS_PAIRED_ARROWS 21C9:RIGHTWARDS_PAIRED_ARROWS 21CA:DOWNWARDS_PAIRED_ARROWS
   21CB:LEFTWARDS_HARPOON_OVER_RIGHTWARDS_HARPOON 21CC:RIGHTWARDS_HARPOON_OVER_LEFTWARDS_HARPOON
   21CD:LEFTWARDS_DOUBLE_ARROW_WITH_STROKE 21CE:LEFT_RIGHT_DOUBLE_ARROW_WITH_STROKE
   21CF:RIGHTWARDS_DOUBLE_ARROW_WITH_STROKE 21D0:LEFTWARDS_DOUBLE_ARROW 21D1:UPWARDS_DOUBLE_ARROW
   21D2:RIGHTWARDS_DOUBLE_ARROW 21D3:DOWNWARDS_DOUBLE_ARROW 21D4:LEFT_RIGHT_DOUBLE_ARROW
   21D5:UP_DOWN_DOUBLE_ARROW 21D6:NORTH_WEST_DOUBLE_ARROW 21D7:NORTH_EAST_DOUBLE_ARROW
   21D8:SOUTH_EAST_DOUBLE_ARROW 21D9:SOUTH_WEST_DOUBLE_ARROW 21DA:LEFTWARDS_TRIPLE_ARROW
   21DB:RIGHTWARDS_TRIPLE_ARROW 21DC:LEFTWARDS_SQUIGGLE_ARROW 21DD:RIGHTWARDS_SQUIGGLE_ARROW
   21DE:UPWARDS_ARROW_WITH_DOUBLE_STROKE 21DF:DOWNWARDS_ARROW_WITH_DOUBLE_STROKE
   21E0:LEFTWARDS_DASHED_ARROW 21E1:UPWARDS_DASHED_ARROW 21E2:RIGHTWARDS_DASHED_ARROW
   21E3:DOWNWARDS_DASHED_ARROW 21E4:LEFTWARDS_ARROW_TO_BAR 21E5:RIGHTWARDS_ARROW_TO_BAR
   21E6:LEFTWARDS_WHITE_ARROW 21E7:UPWARDS_WHITE_ARROW 21E8:RIGHTWARDS_WHITE_ARROW
   21E9:DOWNWARDS_WHITE_ARROW 21EA:UPWARDS_WHITE_ARROW_FROM_BAR 21EB:UPWARDS_WHITE_ARROW_ON_PEDESTAL
   21EC:UPWARDS_WHITE_ARROW_ON_PEDESTAL_WITH_HORIZONTAL_BAR
   21ED:UPWARDS_WHITE_ARROW_ON_PEDESTAL_WITH_VERTICAL_BAR 21EE:UPWARDS_WHITE_DOUBLE_ARROW
   21EF:UPWARDS_WHITE_DOUBLE_ARROW_ON_PEDESTAL 21F0:RIGHTWARDS_WHITE_ARROW_FROM_WALL
   21F1:NORTH_WEST_ARROW_TO_CORNER 21F2:SOUTH_EAST_ARROW_TO_CORNER 21F3:UP_DOWN_WHITE_ARROW
   21F4:RIGHT_ARROW_WITH_SMALL_CIRCLE 21F5:DOWNWARDS_ARROW_LEFTWARDS_OF_UPWARDS_ARROW
   21F6:THREE_RIGHTWARDS_ARROWS 21F7:LEFTWARDS_ARROW_WITH_VERTICAL_STROKE
   21F8:RIGHTWARDS_ARROW_WITH_VERTICAL_STROKE 21F9:LEFT_RIGHT_ARROW_WITH_VERTICAL_STROKE
   21FA:LEFTWARDS_ARROW_WITH_DOUBLE_VERTICAL_STROKE
   21FB:RIGHTWARDS_ARROW_WITH_DOUBLE_VERTICAL_STROKE
   21FC:LEFT_RIGHT_ARROW_WITH_DOUBLE_VERTICAL_STROKE 21FD:LEFTWARDS_OPEN-HEADED_ARROW
   21FE:RIGHTWARDS_OPEN-HEADED_ARROW 21FF:LEFT_RIGHT_OPEN-HEADED_ARROW 2200:FOR_ALL 2201:COMPLEMENT
   2202:PARTIAL_DIFFERENTIAL 2203:THERE_EXISTS 2204:THERE_DOES_NOT_EXIST 2205:EMPTY_SET
   2206:INCREMENT 2207:NABLA 2208:ELEMENT_OF 2209:NOT_AN_ELEMENT_OF 220A:SMALL_ELEMENT_OF
   220B:CONTAINS_AS_MEMBER 220C:DOES_NOT_CONTAIN_AS_MEMBER 220D:SMALL_CONTAINS_AS_MEMBER
   220E:END_OF_PROOF 220F:N-ARY_PRODUCT 2210:N-ARY_COPRODUCT 2211:N-ARY_SUMMATION 2212:MINUS_SIGN
   2213:MINUS-OR-PLUS_SIGN 2214:DOT_PLUS 2215:DIVISION_SLASH 2216:SET_MINUS 2217:ASTERISK_OPERATOR
   2218:RING_OPERATOR 2219:BULLET_OPERATOR 221A:SQUARE_ROOT 221B:CUBE_ROOT 221C:FOURTH_ROOT
   221D:PROPORTIONAL_TO 221E:INFINITY 221F:RIGHT_ANGLE 2220:ANGLE 2221:MEASURED_ANGLE
   2222:SPHERICAL_ANGLE 2223:DIVIDES 2224:DOES_NOT_DIVIDE 2225:PARALLEL_TO 2226:NOT_PARALLEL_TO
   2227:LOGICAL_AND 2228:LOGICAL_OR 2229:INTERSECTION 222A:UNION 222B:INTEGRAL 222C:DOUBLE_INTEGRAL
   222D:TRIPLE_INTEGRAL 222E:CONTOUR_INTEGRAL 222F:SURFACE_INTEGRAL 2230:VOLUME_INTEGRAL
   2231:CLOCKWISE_INTEGRAL 2232:CLOCKWISE_CONTOUR_INTEGRAL 2233:ANTICLOCKWISE_CONTOUR_INTEGRAL
   2234:THEREFORE 2235:BECAUSE 2236:RATIO 2237:PROPORTION 2238:DOT_MINUS 2239:EXCESS
   223A:GEOMETRIC_PROPORTION 223B:HOMOTHETIC 223C:TILDE_OPERATOR 223D:REVERSED_TILDE
   223E:INVERTED_LAZY_S 223F:SINE_WAVE 2240:WREATH_PRODUCT 2241:NOT_TILDE 2242:MINUS_TILDE
   2243:ASYMPTOTICALLY_EQUAL_TO 2244:NOT_ASYMPTOTICALLY_EQUAL_TO 2245:APPROXIMATELY_EQUAL_TO
   2246:APPROXIMATELY_BUT_NOT_ACTUALLY_EQUAL_TO 2247:NEITHER_APPROXIMATELY_NOR_ACTUALLY_EQUAL_TO
   2248:ALMOST_EQUAL_TO 2249:NOT_ALMOST_EQUAL_TO 224A:ALMOST_EQUAL_OR_EQUAL_TO 224B:TRIPLE_TILDE
   224C:ALL_EQUAL_TO 224D:EQUIVALENT_TO 224E:GEOMETRICALLY_EQUIVALENT_TO 224F:DIFFERENCE_BETWEEN
   2250:APPROACHES_THE_LIMIT 2251:GEOMETRICALLY_EQUAL_TO 2252:APPROXIMATELY_EQUAL_TO_OR_THE_IMAGE_OF
   2253:IMAGE_OF_OR_APPROXIMATELY_EQUAL_TO 2254:COLON_EQUALS 2255:EQUALS_COLON 2256:RING_IN_EQUAL_TO
   2257:RING_EQUAL_TO 2258:CORRESPONDS_TO 2259:ESTIMATES 225A:EQUIANGULAR_TO 225B:STAR_EQUALS
   225C:DELTA_EQUAL_TO 225D:EQUAL_TO_BY_DEFINITION 225E:MEASURED_BY 225F:QUESTIONED_EQUAL_TO
   2260:NOT_EQUAL_TO 2261:IDENTICAL_TO 2262:NOT_IDENTICAL_TO 2263:STRICTLY_EQUIVALENT_TO
   2264:LESS-THAN_OR_EQUAL_TO 2265:GREATER-THAN_OR_EQUAL_TO 2266:LESS-THAN_OVER_EQUAL_TO
   2267:GREATER-THAN_OVER_EQUAL_TO 2268:LESS-THAN_BUT_NOT_EQUAL_TO
   2269:GREATER-THAN_BUT_NOT_EQUAL_TO 226A:MUCH_LESS-THAN 226B:MUCH_GREATER-THAN 226C:BETWEEN
   226D:NOT_EQUIVALENT_TO 226E:NOT_LESS-THAN 226F:NOT_GREATER-THAN
   2270:NEITHER_LESS-THAN_NOR_EQUAL_TO 2271:NEITHER_GREATER-THAN_NOR_EQUAL_TO
   2272:LESS-THAN_OR_EQUIVALENT_TO 2273:GREATER-THAN_OR_EQUIVALENT_TO
   2274:NEITHER_LESS-THAN_NOR_EQUIVALENT_TO 2275:NEITHER_GREATER-THAN_NOR_EQUIVALENT_TO
   2276:LESS-THAN_OR_GREATER-THAN 2277:GREATER-THAN_OR_LESS-THAN
   2278:NEITHER_LESS-THAN_NOR_GREATER-THAN 2279:NEITHER_GREATER-THAN_NOR_LESS-THAN 227A:PRECEDES
   227B:SUCCEEDS 227C:PRECEDES_OR_EQUAL_TO 227D:SUCCEEDS_OR_EQUAL_TO 227E:PRECEDES_OR_EQUIVALENT_TO
   227F:SUCCEEDS_OR_EQUIVALENT_TO 2280:DOES_NOT_PRECEDE 2281:DOES_NOT_SUCCEED 2282:SUBSET_OF
   2283:SUPERSET_OF 2284:NOT_A_SUBSET_OF 2285:NOT_A_SUPERSET_OF 2286:SUBSET_OF_OR_EQUAL_TO
   2287:SUPERSET_OF_OR_EQUAL_TO 2288:NEITHER_A_SUBSET_OF_NOR_EQUAL_TO
   2289:NEITHER_A_SUPERSET_OF_NOR_EQUAL_TO 228A:SUBSET_OF_WITH_NOT_EQUAL_TO
   228B:SUPERSET_OF_WITH_NOT_EQUAL_TO 228C:MULTISET 228D:MULTISET_MULTIPLICATION 228E:MULTISET_UNION
   228F:SQUARE_IMAGE_OF 2290:SQUARE_ORIGINAL_OF 2291:SQUARE_IMAGE_OF_OR_EQUAL_TO
   2292:SQUARE_ORIGINAL_OF_OR_EQUAL_TO 2293:SQUARE_CAP 2294:SQUARE_CUP 2295:CIRCLED_PLUS
   2296:CIRCLED_MINUS 2297:CIRCLED_TIMES 2298:CIRCLED_DIVISION_SLASH 2299:CIRCLED_DOT_OPERATOR
   229A:CIRCLED_RING_OPERATOR 229B:CIRCLED_ASTERISK_OPERATOR 229C:CIRCLED_EQUALS 229D:CIRCLED_DASH
   229E:SQUARED_PLUS 229F:SQUARED_MINUS 22A0:SQUARED_TIMES 22A1:SQUARED_DOT_OPERATOR 22A2:RIGHT_TACK
   22A3:LEFT_TACK 22A4:DOWN_TACK 22A5:UP_TACK 22A6:ASSERTION 22A7:MODELS 22A8:TRUE 22A9:FORCES
   22AA:TRIPLE_VERTICAL_BAR_RIGHT_TURNSTILE 22AB:DOUBLE_VERTICAL_BAR_DOUBLE_RIGHT_TURNSTILE
   22AC:DOES_NOT_PROVE 22AD:NOT_TRUE 22AE:DOES_NOT_FORCE
   22AF:NEGATED_DOUBLE_VERTICAL_BAR_DOUBLE_RIGHT_TURNSTILE 22B0:PRECEDES_UNDER_RELATION
   22B1:SUCCEEDS_UNDER_RELATION 22B2:NORMAL_SUBGROUP_OF 22B3:CONTAINS_AS_NORMAL_SUBGROUP
   22B4:NORMAL_SUBGROUP_OF_OR_EQUAL_TO 22B5:CONTAINS_AS_NORMAL_SUBGROUP_OR_EQUAL_TO 22B6:ORIGINAL_OF
   22B7:IMAGE_OF 22B8:MULTIMAP 22B9:HERMITIAN_CONJUGATE_MATRIX 22BA:INTERCALATE 22BB:XOR 22BC:NAND
   22BD:NOR 22BE:RIGHT_ANGLE_WITH_ARC 22BF:RIGHT_TRIANGLE 22C0:N-ARY_LOGICAL_AND
   22C1:N-ARY_LOGICAL_OR 22C2:N-ARY_INTERSECTION 22C3:N-ARY_UNION 22C4:DIAMOND_OPERATOR
   22C5:DOT_OPERATOR 22C6:STAR_OPERATOR 22C7:DIVISION_TIMES 22C8:BOWTIE
   22C9:LEFT_NORMAL_FACTOR_SEMIDIRECT_PRODUCT 22CA:RIGHT_NORMAL_FACTOR_SEMIDIRECT_PRODUCT
   22CB:LEFT_SEMIDIRECT_PRODUCT 22CC:RIGHT_SEMIDIRECT_PRODUCT 22CD:REVERSED_TILDE_EQUALS
   22CE:CURLY_LOGICAL_OR 22CF:CURLY_LOGICAL_AND 22D0:DOUBLE_SUBSET 22D1:DOUBLE_SUPERSET
   22D2:DOUBLE_INTERSECTION 22D3:DOUBLE_UNION 22D4:PITCHFORK 22D5:EQUAL_AND_PARALLEL_TO
   22D6:LESS-THAN_WITH_DOT 22D7:GREATER-THAN_WITH_DOT 22D8:VERY_MUCH_LESS-THAN
   22D9:VERY_MUCH_GREATER-THAN 22DA:LESS-THAN_EQUAL_TO_OR_GREATER-THAN
   22DB:GREATER-THAN_EQUAL_TO_OR_LESS-THAN 22DC:EQUAL_TO_OR_LESS-THAN 22DD:EQUAL_TO_OR_GREATER-THAN
   22DE:EQUAL_TO_OR_PRECEDES 22DF:EQUAL_TO_OR_SUCCEEDS 22E0:DOES_NOT_PRECEDE_OR_EQUAL
   22E1:DOES_NOT_SUCCEED_OR_EQUAL 22E2:NOT_SQUARE_IMAGE_OF_OR_EQUAL_TO
   22E3:NOT_SQUARE_ORIGINAL_OF_OR_EQUAL_TO 22E4:SQUARE_IMAGE_OF_OR_NOT_EQUAL_TO
   22E5:SQUARE_ORIGINAL_OF_OR_NOT_EQUAL_TO 22E6:LESS-THAN_BUT_NOT_EQUIVALENT_TO
   22E7:GREATER-THAN_BUT_NOT_EQUIVALENT_TO 22E8:PRECEDES_BUT_NOT_EQUIVALENT_TO
   22E9:SUCCEEDS_BUT_NOT_EQUIVALENT_TO 22EA:NOT_NORMAL_SUBGROUP_OF
   22EB:DOES_NOT_CONTAIN_AS_NORMAL_SUBGROUP 22EC:NOT_NORMAL_SUBGROUP_OF_OR_EQUAL_TO
   22ED:DOES_NOT_CONTAIN_AS_NORMAL_SUBGROUP_OR_EQUAL 22EE:VERTICAL_ELLIPSIS
   22EF:MIDLINE_HORIZONTAL_ELLIPSIS 22F0:UP_RIGHT_DIAGONAL_ELLIPSIS
   22F1:DOWN_RIGHT_DIAGONAL_ELLIPSIS 22F2:ELEMENT_OF_WITH_LONG_HORIZONTAL_STROKE
   22F3:ELEMENT_OF_WITH_VERTICAL_BAR_AT_END_OF_HORIZONTAL_STROKE
   22F4:SMALL_ELEMENT_OF_WITH_VERTICAL_BAR_AT_END_OF_HORIZONTAL_STROKE
   22F5:ELEMENT_OF_WITH_DOT_ABOVE 22F6:ELEMENT_OF_WITH_OVERBAR 22F7:SMALL_ELEMENT_OF_WITH_OVERBAR
   22F8:ELEMENT_OF_WITH_UNDERBAR 22F9:ELEMENT_OF_WITH_TWO_HORIZONTAL_STROKES
   22FA:CONTAINS_WITH_LONG_HORIZONTAL_STROKE
   22FB:CONTAINS_WITH_VERTICAL_BAR_AT_END_OF_HORIZONTAL_STROKE
   22FC:SMALL_CONTAINS_WITH_VERTICAL_BAR_AT_END_OF_HORIZONTAL_STROKE 22FD:CONTAINS_WITH_OVERBAR
   22FE:SMALL_CONTAINS_WITH_OVERBAR 22FF:Z_NOTATION_BAG_MEMBERSHIP
   2500:BOX_DRAWINGS_LIGHT_HORIZONTAL 2501:BOX_DRAWINGS_HEAVY_HORIZONTAL
   2502:BOX_DRAWINGS_LIGHT_VERTICAL 2503:BOX_DRAWINGS_HEAVY_VERTICAL
   2504:BOX_DRAWINGS_LIGHT_TRIPLE_DASH_HORIZONTAL 2505:BOX_DRAWINGS_HEAVY_TRIPLE_DASH_HORIZONTAL
   2506:BOX_DRAWINGS_LIGHT_TRIPLE_DASH_VERTICAL 2507:BOX_DRAWINGS_HEAVY_TRIPLE_DASH_VERTICAL
   2508:BOX_DRAWINGS_LIGHT_QUADRUPLE_DASH_HORIZONTAL
   2509:BOX_DRAWINGS_HEAVY_QUADRUPLE_DASH_HORIZONTAL 250A:BOX_DRAWINGS_LIGHT_QUADRUPLE_DASH_VERTICAL
   250B:BOX_DRAWINGS_HEAVY_QUADRUPLE_DASH_VERTICAL 250C:BOX_DRAWINGS_LIGHT_DOWN_AND_RIGHT
   250D:BOX_DRAWINGS_DOWN_LIGHT_AND_RIGHT_HEAVY 250E:BOX_DRAWINGS_DOWN_HEAVY_AND_RIGHT_LIGHT
   250F:BOX_DRAWINGS_HEAVY_DOWN_AND_RIGHT 2510:BOX_DRAWINGS_LIGHT_DOWN_AND_LEFT
   2511:BOX_DRAWINGS_DOWN_LIGHT_AND_LEFT_HEAVY 2512:BOX_DRAWINGS_DOWN_HEAVY_AND_LEFT_LIGHT
   2513:BOX_DRAWINGS_HEAVY_DOWN_AND_LEFT 2514:BOX_DRAWINGS_LIGHT_UP_AND_RIGHT
   2515:BOX_DRAWINGS_UP_LIGHT_AND_RIGHT_HEAVY 2516:BOX_DRAWINGS_UP_HEAVY_AND_RIGHT_LIGHT
   2517:BOX_DRAWINGS_HEAVY_UP_AND_RIGHT 2518:BOX_DRAWINGS_LIGHT_UP_AND_LEFT
   2519:BOX_DRAWINGS_UP_LIGHT_AND_LEFT_HEAVY 251A:BOX_DRAWINGS_UP_HEAVY_AND_LEFT_LIGHT
   251B:BOX_DRAWINGS_HEAVY_UP_AND_LEFT 251C:BOX_DRAWINGS_LIGHT_VERTICAL_AND_RIGHT
   251D:BOX_DRAWINGS_VERTICAL_LIGHT_AND_RIGHT_HEAVY 251E:BOX_DRAWINGS_UP_HEAVY_AND_RIGHT_DOWN_LIGHT
   251F:BOX_DRAWINGS_DOWN_HEAVY_AND_RIGHT_UP_LIGHT 2520:BOX_DRAWINGS_VERTICAL_HEAVY_AND_RIGHT_LIGHT
   2521:BOX_DRAWINGS_DOWN_LIGHT_AND_RIGHT_UP_HEAVY 2522:BOX_DRAWINGS_UP_LIGHT_AND_RIGHT_DOWN_HEAVY
   2523:BOX_DRAWINGS_HEAVY_VERTICAL_AND_RIGHT 2524:BOX_DRAWINGS_LIGHT_VERTICAL_AND_LEFT
   2525:BOX_DRAWINGS_VERTICAL_LIGHT_AND_LEFT_HEAVY 2526:BOX_DRAWINGS_UP_HEAVY_AND_LEFT_DOWN_LIGHT
   2527:BOX_DRAWINGS_DOWN_HEAVY_AND_LEFT_UP_LIGHT 2528:BOX_DRAWINGS_VERTICAL_HEAVY_AND_LEFT_LIGHT
   2529:BOX_DRAWINGS_DOWN_LIGHT_AND_LEFT_UP_HEAVY 252A:BOX_DRAWINGS_UP_LIGHT_AND_LEFT_DOWN_HEAVY
   252B:BOX_DRAWINGS_HEAVY_VERTICAL_AND_LEFT 252C:BOX_DRAWINGS_LIGHT_DOWN_AND_HORIZONTAL
   252D:BOX_DRAWINGS_LEFT_HEAVY_AND_RIGHT_DOWN_LIGHT
   252E:BOX_DRAWINGS_RIGHT_HEAVY_AND_LEFT_DOWN_LIGHT
   252F:BOX_DRAWINGS_DOWN_LIGHT_AND_HORIZONTAL_HEAVY
   2530:BOX_DRAWINGS_DOWN_HEAVY_AND_HORIZONTAL_LIGHT
   2531:BOX_DRAWINGS_RIGHT_LIGHT_AND_LEFT_DOWN_HEAVY
   2532:BOX_DRAWINGS_LEFT_LIGHT_AND_RIGHT_DOWN_HEAVY 2533:BOX_DRAWINGS_HEAVY_DOWN_AND_HORIZONTAL
   2534:BOX_DRAWINGS_LIGHT_UP_AND_HORIZONTAL 2535:BOX_DRAWINGS_LEFT_HEAVY_AND_RIGHT_UP_LIGHT
   2536:BOX_DRAWINGS_RIGHT_HEAVY_AND_LEFT_UP_LIGHT 2537:BOX_DRAWINGS_UP_LIGHT_AND_HORIZONTAL_HEAVY
   2538:BOX_DRAWINGS_UP_HEAVY_AND_HORIZONTAL_LIGHT 2539:BOX_DRAWINGS_RIGHT_LIGHT_AND_LEFT_UP_HEAVY
   253A:BOX_DRAWINGS_LEFT_LIGHT_AND_RIGHT_UP_HEAVY 253B:BOX_DRAWINGS_HEAVY_UP_AND_HORIZONTAL
   253C:BOX_DRAWINGS_LIGHT_VERTICAL_AND_HORIZONTAL
   253D:BOX_DRAWINGS_LEFT_HEAVY_AND_RIGHT_VERTICAL_LIGHT
   253E:BOX_DRAWINGS_RIGHT_HEAVY_AND_LEFT_VERTICAL_LIGHT
   253F:BOX_DRAWINGS_VERTICAL_LIGHT_AND_HORIZONTAL_HEAVY
   2540:BOX_DRAWINGS_UP_HEAVY_AND_DOWN_HORIZONTAL_LIGHT
   2541:BOX_DRAWINGS_DOWN_HEAVY_AND_UP_HORIZONTAL_LIGHT
   2542:BOX_DRAWINGS_VERTICAL_HEAVY_AND_HORIZONTAL_LIGHT
   2543:BOX_DRAWINGS_LEFT_UP_HEAVY_AND_RIGHT_DOWN_LIGHT
   2544:BOX_DRAWINGS_RIGHT_UP_HEAVY_AND_LEFT_DOWN_LIGHT
   2545:BOX_DRAWINGS_LEFT_DOWN_HEAVY_AND_RIGHT_UP_LIGHT
   2546:BOX_DRAWINGS_RIGHT_DOWN_HEAVY_AND_LEFT_UP_LIGHT
   2547:BOX_DRAWINGS_DOWN_LIGHT_AND_UP_HORIZONTAL_HEAVY
   2548:BOX_DRAWINGS_UP_LIGHT_AND_DOWN_HORIZONTAL_HEAVY
   2549:BOX_DRAWINGS_RIGHT_LIGHT_AND_LEFT_VERTICAL_HEAVY
   254A:BOX_DRAWINGS_LEFT_LIGHT_AND_RIGHT_VERTICAL_HEAVY
   254B:BOX_DRAWINGS_HEAVY_VERTICAL_AND_HORIZONTAL 254C:BOX_DRAWINGS_LIGHT_DOUBLE_DASH_HORIZONTAL
   254D:BOX_DRAWINGS_HEAVY_DOUBLE_DASH_HORIZONTAL 254E:BOX_DRAWINGS_LIGHT_DOUBLE_DASH_VERTICAL
   254F:BOX_DRAWINGS_HEAVY_DOUBLE_DASH_VERTICAL 2550:BOX_DRAWINGS_DOUBLE_HORIZONTAL
   2551:BOX_DRAWINGS_DOUBLE_VERTICAL 2552:BOX_DRAWINGS_DOWN_SINGLE_AND_RIGHT_DOUBLE
   2553:BOX_DRAWINGS_DOWN_DOUBLE_AND_RIGHT_SINGLE 2554:BOX_DRAWINGS_DOUBLE_DOWN_AND_RIGHT
   2555:BOX_DRAWINGS_DOWN_SINGLE_AND_LEFT_DOUBLE 2556:BOX_DRAWINGS_DOWN_DOUBLE_AND_LEFT_SINGLE
   2557:BOX_DRAWINGS_DOUBLE_DOWN_AND_LEFT 2558:BOX_DRAWINGS_UP_SINGLE_AND_RIGHT_DOUBLE
   2559:BOX_DRAWINGS_UP_DOUBLE_AND_RIGHT_SINGLE 255A:BOX_DRAWINGS_DOUBLE_UP_AND_RIGHT
   255B:BOX_DRAWINGS_UP_SINGLE_AND_LEFT_DOUBLE 255C:BOX_DRAWINGS_UP_DOUBLE_AND_LEFT_SINGLE
   255D:BOX_DRAWINGS_DOUBLE_UP_AND_LEFT 255E:BOX_DRAWINGS_VERTICAL_SINGLE_AND_RIGHT_DOUBLE
   255F:BOX_DRAWINGS_VERTICAL_DOUBLE_AND_RIGHT_SINGLE 2560:BOX_DRAWINGS_DOUBLE_VERTICAL_AND_RIGHT
   2561:BOX_DRAWINGS_VERTICAL_SINGLE_AND_LEFT_DOUBLE
   2562:BOX_DRAWINGS_VERTICAL_DOUBLE_AND_LEFT_SINGLE 2563:BOX_DRAWINGS_DOUBLE_VERTICAL_AND_LEFT
   2564:BOX_DRAWINGS_DOWN_SINGLE_AND_HORIZONTAL_DOUBLE
   2565:BOX_DRAWINGS_DOWN_DOUBLE_AND_HORIZONTAL_SINGLE 2566:BOX_DRAWINGS_DOUBLE_DOWN_AND_HORIZONTAL
   2567:BOX_DRAWINGS_UP_SINGLE_AND_HORIZONTAL_DOUBLE
   2568:BOX_DRAWINGS_UP_DOUBLE_AND_HORIZONTAL_SINGLE 2569:BOX_DRAWINGS_DOUBLE_UP_AND_HORIZONTAL
   256A:BOX_DRAWINGS_VERTICAL_SINGLE_AND_HORIZONTAL_DOUBLE
   256B:BOX_DRAWINGS_VERTICAL_DOUBLE_AND_HORIZONTAL_SINGLE
   256C:BOX_DRAWINGS_DOUBLE_VERTICAL_AND_HORIZONTAL 256D:BOX_DRAWINGS_LIGHT_ARC_DOWN_AND_RIGHT
   256E:BOX_DRAWINGS_LIGHT_ARC_DOWN_AND_LEFT 256F:BOX_DRAWINGS_LIGHT_ARC_UP_AND_LEFT
   2570:BOX_DRAWINGS_LIGHT_ARC_UP_AND_RIGHT
   2571:BOX_DRAWINGS_LIGHT_DIAGONAL_UPPER_RIGHT_TO_LOWER_LEFT
   2572:BOX_DRAWINGS_LIGHT_DIAGONAL_UPPER_LEFT_TO_LOWER_RIGHT 2573:BOX_DRAWINGS_LIGHT_DIAGONAL_CROSS
   2574:BOX_DRAWINGS_LIGHT_LEFT 2575:BOX_DRAWINGS_LIGHT_UP 2576:BOX_DRAWINGS_LIGHT_RIGHT
   2577:BOX_DRAWINGS_LIGHT_DOWN 2578:BOX_DRAWINGS_HEAVY_LEFT 2579:BOX_DRAWINGS_HEAVY_UP
   257A:BOX_DRAWINGS_HEAVY_RIGHT 257B:BOX_DRAWINGS_HEAVY_DOWN
   257C:BOX_DRAWINGS_LIGHT_LEFT_AND_HEAVY_RIGHT 257D:BOX_DRAWINGS_LIGHT_UP_AND_HEAVY_DOWN
   257E:BOX_DRAWINGS_HEAVY_LEFT_AND_LIGHT_RIGHT 257F:BOX_DRAWINGS_HEAVY_UP_AND_LIGHT_DOWN
   FEFF:BYTE_ORDER_MARK FEFF:BOM FEFF:ZWNBSP".toList

/-- The longest of some names that a text starts with: its place among them, and what follows it. -/
def longestStart? (names : List String) (text : List Char) : Option (Nat × List Char) :=
  let longer := fun (best : Option (String × Nat)) (found : String × Nat) =>
    if best.any fun b => found.1.length ≤ b.1.length then best else some found
  let found := names.zipIdx.filter fun n => n.1.toList.isPrefixOf text
  (found.foldl longer none).map fun n => (n.2, text.drop n.1.length)

/-- The letters that a Hangul syllable can begin with. -/
def leadingLetters : List String :=
  ["G", "GG", "N", "D", "DD", "R", "M", "B", "BB", "S", "SS", "", "J", "JJ", "C", "K", "T", "P", "H"]

/-- The vowels of Hangul syllables. -/
def vowelLetters : List String :=
  ["A", "AE", "YA", "YAE", "EO", "E", "YEO", "YE", "O", "WA", "WAE", "OE", "YO", "U", "WEO", "WE",
    "WI", "YU", "EU", "YI", "I"]

/-- The letters that a Hangul syllable can end with. -/
def trailingLetters : List String :=
  ["", "G", "GG", "GS", "N", "NJ", "NH", "D", "L", "LG", "LM", "LB", "LS", "LT", "LP", "LH", "M",
    "B", "BS", "S", "SS", "NG", "J", "C", "K", "T", "P", "H"]

/-- The code point of a Hangul syllable. -/
def syllableOf? (letters : List Char) : Option Nat := do
  let (first, rest) ← longestStart? leadingLetters letters
  let (vowel, rest) ← longestStart? vowelLetters rest
  let (last, rest) ← longestStart? trailingLetters rest
  if rest.isEmpty then
    some (0xAC00 + (first * vowelLetters.length + vowel) * trailingLetters.length + last)
  else none

/-- The code points of ideographs. -/
def ideographs : CharRanges :=
  CharRanges.ofText "3400-4DBF 4E00-9FFF 20000-2A6DF 2A700-2B738 2B740-2B81D 2B820-2CEA1 2CEB0-2EBE0
   30000-3134A"

/-- The code point of an ideograph, which is named by four or five digits. -/
def ideographOf? (digits : List Char) : Option Nat :=
  let code := CharRanges.hexNumber digits
  if (digits.length == 4 || digits.length == 5) &&
      digits.all (fun c => CharRanges.isHexDigit c && !c.isLower) && ideographs.contains code then
    some code
  else none

/-- The code point of a name. Names that follow a rule are in upper case, others in either. -/
def codeNamed? (name : String) : Option Nat :=
  let ofSyllable := "HANGUL SYLLABLE ".toList
  let ofIdeograph := "CJK UNIFIED IDEOGRAPH-".toList
  let chars := name.toList
  if ofSyllable.isPrefixOf chars then syllableOf? (chars.drop ofSyllable.length)
  else if ofIdeograph.isPrefixOf chars then ideographOf? (chars.drop ofIdeograph.length)
  else ((CharRanges.words charNameTable).map readCharName).lookup (chars.map Char.toUpper)

end SecretScan.Text
