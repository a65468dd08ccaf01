import BeaconLight.Json.Lexer
import BeaconLight.Json.Printer
import BeaconLight.Proofs.Text.Utf8

/-!
# Texts in JSON strings

`Means` says which bytes the bytes between the quotes of a string stand for. They may stand
for themselves, and escapes may be letters or the codes of characters. The lexer takes such
bytes for the inside of a string, and `readString` gives the text that they stand for. What
the printer puts between quotes stands for the text that it is given.
-/

namespace BeaconLight.Json

/-- The bytes of a string stand for these. -/
inductive Means : List UInt8 → List UInt8 → Prop
  | nil : Means [] []
  /-- A byte stands for itself. -/
  | plain {byte : UInt8} {raw bytes : List UInt8} (hquote : byte ≠ 0x22)
    (hbackslash : byte ≠ 0x5c) (hcontrol : ¬ byte < 0x20) (hrest : Means raw bytes) :
    Means (byte :: raw) (byte :: bytes)
  /-- A backslash and a letter stand for a byte. -/
  | letter {letter byte : UInt8} {raw bytes : List UInt8}
    (hletter : simpleEscape letter = some byte) (hrest : Means raw bytes) :
    Means (0x5c :: letter :: raw) (byte :: bytes)
  /-- A code of four digits stands for its character, which is no surrogate. -/
  | code {a b c d : UInt8} {code : Nat} {raw bytes : List UInt8}
    (hcode : hexFour a b c d = some code) (hlow : code < 0xd800) (hrest : Means raw bytes) :
    Means (0x5c :: 0x75 :: a :: b :: c :: d :: raw)
      (String.utf8EncodeChar (Char.ofNat code) ++ bytes)

/-- Strings that follow one another stand for what each of them does. -/
theorem Means.append {raw raw' bytes bytes' : List UInt8} (h : Means raw bytes)
    (h' : Means raw' bytes') :
  Means (raw ++ raw') (bytes ++ bytes')
  := by
  induction h with
  | nil => apply h'
  | plain hquote hbackslash hcontrol _ ih => exact .plain hquote hbackslash hcontrol ih
  | letter hletter _ ih => exact .letter hletter ih
  | code hcode hlow _ ih =>
    rw [List.append_assoc]
    exact .code hcode hlow ih

/-- Bytes that are neither quotes nor backslashes nor controls stand for themselves. -/
theorem means_self {bytes : List UInt8}
    (h : ∀ byte ∈ bytes, byte ≠ 0x22 ∧ byte ≠ 0x5c ∧ ¬ byte < 0x20) :
  Means bytes bytes
  := by
  induction bytes with
  | nil => apply Means.nil
  | cons byte rest ih =>
    obtain ⟨hquote, hbackslash, hcontrol⟩ := h byte List.mem_cons_self
    apply Means.plain hquote hbackslash hcontrol
    apply ih
    intro other hother
    apply h other (List.mem_cons_of_mem byte hother)

/-! ### What readers make of a string -/

/-- What has a value as a hexadecimal digit is one. -/
theorem isHexDigit_of_hexValue {byte : UInt8} {n : Nat}
    (h : hexFour.hexValue byte = some n) :
  isHexDigit byte = true
  := by
  unfold hexFour.hexValue at h
  split at h
  case isTrue hdigit => simp [isHexDigit, isDigit, hdigit]
  split at h
  case isTrue hlower => simp [isHexDigit, hlower]
  split at h
  case isTrue hupper => simp [isHexDigit, hupper]
  cases h

/-- The bytes of a code are hexadecimal digits. -/
theorem isHexDigit_of_hexFour {a b c d : UInt8} {code : Nat} (h : hexFour a b c d = some code) :
  isHexDigit a = true ∧ isHexDigit b = true ∧ isHexDigit c = true ∧ isHexDigit d = true
  := by
  simp only [hexFour, Option.bind_eq_bind, Option.bind_eq_some_iff] at h
  obtain ⟨_, ha, _, hb, _, hc, _, hd, -⟩ := h
  exact ⟨isHexDigit_of_hexValue ha, isHexDigit_of_hexValue hb, isHexDigit_of_hexValue hc,
    isHexDigit_of_hexValue hd⟩

/-- The lexer goes through the digits of a code. -/
theorem foldl_step_code {a b c d : UInt8} {code : Nat} (h : hexFour a b c d = some code)
    (inside : List UInt8) (done : List Token) :
  [a, b, c, d].foldl Lexer.step ⟨.hex 4 inside, done⟩
    = ⟨.string (d :: c :: b :: a :: inside), done⟩
  := by
  obtain ⟨ha, hb, hc, hd⟩ := isHexDigit_of_hexFour h
  have hstep (left : Nat) {digit : UInt8} (hdigit : isHexDigit digit = true)
      (before : List UInt8) :
      Lexer.step ⟨.hex left before, done⟩ digit =
        ⟨if left ≤ 1 then .string (digit :: before) else .hex (left - 1) (digit :: before),
          done⟩ := by
    simp only [Lexer.step, hdigit, if_true, Lexer.go]
  simp [hstep, ha, hb, hc, hd]

/-- The lexer takes the bytes of a string for its inside. -/
theorem Means.foldl_step {raw bytes : List UInt8} (h : Means raw bytes) (inside : List UInt8)
    (done : List Token) :
  raw.foldl Lexer.step ⟨.string inside, done⟩ = ⟨.string (raw.reverse ++ inside), done⟩
  := by
  induction h generalizing inside with
  | nil => rfl
  | @plain byte raw _ hquote hbackslash hcontrol _ ih =>
    have hstep : Lexer.step ⟨.string inside, done⟩ byte = ⟨.string (byte :: inside), done⟩ := by
      simp only [Lexer.step, hquote, hbackslash, hcontrol, if_false, Lexer.go]
    rw [List.foldl_cons, hstep, ih, List.reverse_cons, List.append_assoc]
    rfl
  | @letter letter byte raw _ hletter _ ih =>
    have hbackslash : Lexer.step ⟨.string inside, done⟩ 0x5c = ⟨.escape inside, done⟩ := rfl
    have hmark : letter ≠ 0x75 := by
      rintro rfl
      cases hletter
    have hescape : isEscapeLetter letter = true := by
      rw [isEscapeLetter, hletter]
      rfl
    have hstep : Lexer.step ⟨.escape inside, done⟩ letter
        = ⟨.string (letter :: 0x5c :: inside), done⟩ := by
      simp only [Lexer.step, hmark, hescape, if_false, if_true, Lexer.go]
    rw [List.foldl_cons, List.foldl_cons, hbackslash, hstep, ih, List.reverse_cons,
      List.reverse_cons, List.append_assoc, List.append_assoc]
    rfl
  | @code a b c d code raw _ hcode _ _ ih =>
    have hmark : [0x5c, 0x75].foldl Lexer.step ⟨.string inside, done⟩
        = ⟨.hex 4 (0x75 :: 0x5c :: inside), done⟩ := rfl
    have hsplit : 0x5c :: 0x75 :: a :: b :: c :: d :: raw
        = [0x5c, 0x75] ++ [a, b, c, d] ++ raw := rfl
    rw [hsplit, List.foldl_append, List.foldl_append, hmark, foldl_step_code hcode, ih,
      List.reverse_append, List.append_assoc]
    rfl

/-- The escapes of a string are replaced by the bytes that they stand for. -/
theorem Means.unescape_eq {raw bytes : List UInt8} (h : Means raw bytes) (done : List UInt8) :
  unescape done raw = some (done.reverse ++ bytes)
  := by
  induction h generalizing done with
  | nil => rw [unescape, List.append_nil]
  | @plain byte raw bytes hquote hbackslash hcontrol _ ih =>
    have hstep : unescape done (byte :: raw) = unescape (byte :: done) raw := by
      rw [unescape]
      all_goals
        intros
        apply hbackslash
        assumption
    rw [hstep, ih, List.reverse_cons, List.append_assoc]
    rfl
  | @letter letter byte raw bytes hletter _ ih =>
    have hstep : unescape done (0x5c :: letter :: raw) = unescape (byte :: done) raw := by
      rw [unescape, hletter]
      intro a b c d rest hmark
      rw [hmark] at hletter
      cases hletter
    rw [hstep, ih, List.reverse_cons, List.append_assoc]
    rfl
  | @code a b c d code raw bytes hcode hlow _ ih =>
    have hhigh : isHighSurrogate code = false := by
      rw [isHighSurrogate, decide_eq_false (Nat.not_le_of_lt hlow), Bool.false_and]
    have hlow' : isLowSurrogate code = false := by
      rw [isLowSurrogate, decide_eq_false (by omega), Bool.false_and]
    rw [unescape, hcode]
    simp only [hhigh, hlow', Bool.false_eq_true, if_false]
    rw [ih, unescape.pushChar, List.reverse_append, List.reverse_reverse, List.append_assoc]

/-- A string is read as the text whose bytes it stands for. -/
theorem Means.readString_eq {raw : List UInt8} {text : String}
    (h : Means raw (Utf8.encode text.toList)) :
  readString raw = some text
  := by
  rw [readString, h.unescape_eq]
  apply Utf8.fromUTF8?_encode

/-! ### What the printer writes -/

/-- The bytes of a text between the quotes of a string. -/
def escaped (text : String) : List UInt8 :=
  Utf8.encode (text.toList.flatMap escapeChar)

theorem utf8EncodeChar_hexDigit :
  ∀ n < 16, String.utf8EncodeChar (hexDigit n) = [UInt8.ofNat (hexDigit n).toNat]
  := by decide

theorem hexFour_hexDigit :
  ∀ n < 0x20, hexFour 0x30 0x30 (UInt8.ofNat (hexDigit (n / 16)).toNat)
    (UInt8.ofNat (hexDigit (n % 16)).toNat) = some n
  := by decide

/-- The bytes of a character that needs no escape need none. -/
theorem plain_of_mem_utf8EncodeChar {c : Char} (hquote : c ≠ '"') (hbackslash : c ≠ '\\')
    (hcontrol : ¬ c.toNat < 0x20) {byte : UInt8} (hbyte : byte ∈ String.utf8EncodeChar c) :
  byte ≠ 0x22 ∧ byte ≠ 0x5c ∧ ¬ byte < 0x20
  := by
  by_cases hascii : c.toNat < 128
  · rw [Utf8.utf8EncodeChar_of_lt hascii, List.mem_singleton] at hbyte
    have hvalue : byte.toNat = c.toNat := by
      rw [hbyte, UInt8.toNat_ofNat']
      omega
    have hother {d : Char} (hd : c ≠ d) : byte.toNat ≠ d.toNat := by
      rw [hvalue]
      intro hcd
      apply hd
      rw [← Char.ofNat_toNat c, hcd, Char.ofNat_toNat]
    refine ⟨?_, ?_, ?_⟩
    · intro hbyte
      apply hother hquote
      rw [hbyte]
      rfl
    · intro hbyte
      apply hother hbackslash
      rw [hbyte]
      rfl
    · rw [UInt8.lt_iff_toNat_lt, hvalue]
      exact hcontrol
  · have hbyte := Utf8.le_of_mem_utf8EncodeChar (Nat.le_of_not_lt hascii) hbyte
    refine ⟨?_, ?_, ?_⟩
    · rintro rfl
      revert hbyte
      decide
    · rintro rfl
      revert hbyte
      decide
    · rw [UInt8.not_lt]
      exact UInt8.le_trans (by decide) hbyte

/-- What is written for a character stands for it. -/
theorem means_escapeChar (c : Char) :
  Means (Utf8.encode (escapeChar c)) (String.utf8EncodeChar c)
  := by
  have hletter (letter byte : UInt8) (h : simpleEscape letter = some byte) :
      Means [0x5c, letter] [byte] := .letter h .nil
  by_cases hquote : c = '"'
  · rw [hquote]
    exact hletter 0x22 0x22 rfl
  by_cases hbackslash : c = '\\'
  · rw [hbackslash]
    exact hletter 0x5c 0x5c rfl
  by_cases hb : c = '\x08'
  · rw [hb]
    exact hletter 0x62 0x08 rfl
  by_cases hf : c = '\x0c'
  · rw [hf]
    exact hletter 0x66 0x0c rfl
  by_cases hn : c = '\n'
  · rw [hn]
    exact hletter 0x6e 0x0a rfl
  by_cases hr : c = '\r'
  · rw [hr]
    exact hletter 0x72 0x0d rfl
  by_cases ht : c = '\t'
  · rw [ht]
    exact hletter 0x74 0x09 rfl
  rw [escapeChar, if_neg hquote, if_neg hbackslash, if_neg hb, if_neg hf, if_neg hn, if_neg hr,
    if_neg ht]
  split
  case isTrue hcontrol =>
    have hcode := Means.code (hexFour_hexDigit c.toNat hcontrol) (by omega) .nil
    have hhigh := utf8EncodeChar_hexDigit (c.toNat / 16) (by omega)
    have hlow := utf8EncodeChar_hexDigit (c.toNat % 16) (by omega)
    rw [Char.ofNat_toNat, List.append_nil] at hcode
    simp only [Utf8.encode, List.flatMap_cons, List.flatMap_nil, hhigh, hlow]
    exact hcode
  case isFalse hcontrol =>
    rw [Utf8.encode, List.flatMap_singleton]
    apply means_self
    intro byte hbyte
    exact plain_of_mem_utf8EncodeChar hquote hbackslash hcontrol hbyte

/-- What is written for a text stands for it. -/
theorem means_escaped (text : String) :
  Means (escaped text) (Utf8.encode text.toList)
  := by
  rw [escaped]
  induction text.toList with
  | nil => apply Means.nil
  | cons c rest ih =>
    rw [List.flatMap_cons, Utf8.encode, List.flatMap_append]
    exact (means_escapeChar c).append ih

/-- A text is read back from what is written for it. -/
theorem readString_escaped (text : String) :
  readString (escaped text) = some text
  := (means_escaped text).readString_eq

end BeaconLight.Json
