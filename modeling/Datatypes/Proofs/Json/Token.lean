import Datatypes.Json.Token
import Datatypes.Json.Writer

/-! # Tokens of what has been written

A string that has been written between quotes is a token again, with the string as its
content. So is a mark of punctuation, and what follows is cut into tokens as before.
-/

namespace Datatypes.Json

theorem hexValue?_digitChar : ∀ d < 16, hexValue? (Nat.digitChar d) = some d := by
  decide

/-- A control character is written with two zeros and its two digits. -/
theorem hexQuad?_digits {n : Nat} (hn : n < 0x20) :
    hexQuad? '0' '0' (Nat.digitChar (n / 16)) (Nat.digitChar (n % 16)) = some n := by
  have hzero : hexValue? '0' = some 0 := by decide
  have hhigh := hexValue?_digitChar (n / 16) (by omega)
  have hlow := hexValue?_digitChar (n % 16) (by omega)
  simp only [hexQuad?, hzero, hhigh, hlow, Option.bind_eq_bind, Option.bind_some, Option.pure_def,
    Option.some.injEq]
  omega

section Plain

variable {c : Char} (hquote : c ≠ '"') (hbackslash : c ≠ '\\') (hcontrol : isControl c = false)
include hquote hbackslash hcontrol

theorem skipString_plain (rest : List Char) : skipString (c :: rest) = skipString rest := by
  rw [skipString.eq_def]
  split <;> simp_all

theorem readString_plain (rest : List Char) :
    readString (c :: rest) = (c :: ·) <$> readString rest := by
  rw [readString.eq_def]
  split <;> simp_all

end Plain

/-- No control character is a surrogate half, so its escape stands for it alone. -/
theorem readString_control {c : Char} (hcontrol : c.toNat < 0x20) (rest : List Char) :
    readString ('\\' :: 'u' :: '0' :: '0' :: Nat.digitChar (c.toNat / 16) ::
        Nat.digitChar (c.toNat % 16) :: rest) = (c :: ·) <$> readString rest := by
  have hlow : isLowSurrogate c.toNat = false := by
    simp only [isLowSurrogate, Bool.and_eq_false_iff, decide_eq_false_iff_not]
    omega
  have hhigh : isHighSurrogate c.toNat = false := by
    simp only [isHighSurrogate, Bool.and_eq_false_iff, decide_eq_false_iff_not]
    omega
  rw [readString, hexQuad?_digits hcontrol]
  simp only [hlow, hhigh, Bool.false_eq_true, if_false, Char.ofNat_toNat]

/-- Skipping passes over each written character as a whole. -/
theorem skipString_escapedChar (c : Char) (rest : List Char) :
    skipString (escapedChar c ++ rest) = skipString rest := by
  unfold escapedChar
  split
  case h_8 c hquote hbackslash _ _ _ _ _ =>
    split
    next hcontrol =>
      simp only [List.cons_append, List.nil_append]
      rw [skipString, hexQuad?_digits hcontrol]
    next hplain => exact skipString_plain hquote hbackslash (decide_eq_false hplain) rest
  all_goals simp [skipString, escaped?]

theorem readString_escapedChar (c : Char) (rest : List Char) :
    readString (escapedChar c ++ rest) = (c :: ·) <$> readString rest := by
  unfold escapedChar
  split
  case h_8 c hquote hbackslash _ _ _ _ _ =>
    split
    next hcontrol => exact readString_control hcontrol rest
    next hplain => exact readString_plain hquote hbackslash (decide_eq_false hplain) rest
  all_goals simp [readString, escaped?]

theorem skipString_written (cs rest : List Char) :
    skipString (cs.flatMap escapedChar ++ '"' :: rest) = .ok rest := by
  induction cs with
  | nil => rfl
  | cons c cs ih => rw [List.flatMap_cons, List.append_assoc, skipString_escapedChar, ih]

theorem readString_written (cs rest : List Char) :
    readString (cs.flatMap escapedChar ++ '"' :: rest) = .ok cs := by
  induction cs with
  | nil => rfl
  | cons c cs ih =>
      rw [List.flatMap_cons, List.append_assoc, readString_escapedChar, ih]
      rfl

theorem tokens_quote {cs behind : List Char} (hskip : skipString cs = .ok behind) :
    tokens ('"' :: cs) = .string (stringContent cs) :: tokens behind := by
  rw [tokens, if_neg (by decide), if_pos rfl]
  split
  next rest hrest =>
    rw [hskip] at hrest
    cases hrest
    rfl
  next fault hfault =>
    rw [hskip] at hfault
    contradiction

/-- A written string is one token, and its content is the string. -/
theorem tokens_stringText (s : String) (rest : List Char) :
    tokens (stringText s ++ rest) = .string (.ok s) :: tokens rest := by
  have hcontent : stringContent (s.toList.flatMap escapedChar ++ '"' :: rest) = .ok s := by
    rw [stringContent, readString_written, Except.map, String.ofList_toList]
  simp only [stringText, List.cons_append, List.append_assoc, List.nil_append]
  rw [tokens_quote (skipString_written s.toList rest), hcontent]

/-- A mark of punctuation is neither a blank nor the beginning of another token. -/
theorem tokens_punctuation {c : Char} {mark : Token} (hmark : punctuation? c = some mark)
    (rest : List Char) : tokens (c :: rest) = mark :: tokens rest := by
  rw [tokens]
  unfold punctuation? at hmark
  split at hmark <;> cases hmark <;> rfl

end Datatypes.Json
