import Datatypes.Json.Number

/-! # JSON tokens

A text is cut into tokens up to the first place where that is not possible. Such a
place is a token too, a broken one, and it is the last: so a reader of tokens meets
the faults of a text in the order in which they stand there.

A string or a number may be read for its content or only be skipped, and the two
differ in what is a fault. Skipping does not put surrogate halves together, and it
takes a number that the text ends in for malformed rather than for truncated.
-/

namespace Datatypes.Json

/-- Why a text cannot be read. -/
inductive Fault where
  | malformed
  | truncated
  /-- The text is JSON, but not of the kind that is wanted. -/
  | mismatched
deriving DecidableEq

inductive Token where
  | openBrace
  | closeBrace
  | openBracket
  | closeBracket
  | comma
  | colon
  | null
  | bool (b : Bool)
  | number (n : Numeral)
  /-- A string that can be skipped, with its content or the fault of its content. -/
  | string (content : Except Fault String)
  /-- The beginning of a word that is not completed. -/
  | brokenWord (fault : Fault)
  /-- The beginning of a number, with the faults of reading and of skipping it. -/
  | brokenNumber (reading skipping : Fault)
  /-- The beginning of a string, with the faults of reading and of skipping it. -/
  | brokenString (reading skipping : Fault)
  /-- A character that no token begins with. -/
  | stray

def isBlank (c : Char) : Bool :=
  c == ' ' || c == '\n' || c == '\t' || c == '\r'

def digitValue? (c : Char) : Option Nat :=
  if c.isDigit then some (c.toNat - '0'.toNat) else none

def hexValue? (c : Char) : Option Nat :=
  if c.isDigit then some (c.toNat - '0'.toNat)
  else if 'a' ≤ c ∧ c ≤ 'f' then some (c.toNat - 'a'.toNat + 10)
  else if 'A' ≤ c ∧ c ≤ 'F' then some (c.toNat - 'A'.toNat + 10)
  else none

/-- The number that four hexadecimal digits stand for. -/
def hexQuad? (a b c d : Char) : Option Nat := do
  let a ← hexValue? a
  let b ← hexValue? b
  let c ← hexValue? c
  let d ← hexValue? d
  return 4096 * a + 256 * b + 16 * c + d

def isHighSurrogate (n : Nat) : Bool :=
  0xd800 ≤ n && n < 0xdc00

def isLowSurrogate (n : Nat) : Bool :=
  0xdc00 ≤ n && n < 0xe000

def surrogatePair (high low : Nat) : Char :=
  Char.ofNat (0x10000 + 1024 * (high - 0xd800) + (low - 0xdc00))

/-- The fault of a numbered escape without four hexadecimal digits: it is truncated if
fewer than four bytes are left for them. -/
def brokenEscape (rest : List Char) : Fault :=
  if (String.ofList (rest.take 4)).utf8ByteSize < 4 then .truncated else .malformed

/-- The character that a letter stands for behind a backslash. -/
def escaped? : Char → Option Char
  | '"' => some '"'
  | '\\' => some '\\'
  | '/' => some '/'
  | 'b' => some '\x08'
  | 'f' => some '\x0c'
  | 'n' => some '\n'
  | 'r' => some '\r'
  | 't' => some '\t'
  | _ => none

/-- A character that must not stand in a string. -/
def isControl (c : Char) : Bool :=
  c.toNat < 0x20

/-- The text behind the closing quote of a string. -/
def skipString : List Char → Except Fault (List Char)
  | [] => .error .truncated
  | '"' :: rest => .ok rest
  | '\\' :: 'u' :: a :: b :: c :: d :: rest =>
      match hexQuad? a b c d with
      | some _ => skipString rest
      | none => .error .malformed
  | '\\' :: 'u' :: rest => .error (brokenEscape rest)
  | '\\' :: c :: rest =>
      match escaped? c with
      | some _ => skipString rest
      | none => .error .malformed
  | ['\\'] => .error .truncated
  | c :: rest => if isControl c then .error .malformed else skipString rest

/-- The content of a string up to its closing quote. Numbered escapes must not be
surrogate halves unless two of them make a pair. -/
def readString : List Char → Except Fault (List Char)
  | [] => .error .truncated
  | '"' :: _ => .ok []
  | '\\' :: 'u' :: a :: b :: c :: d :: rest =>
      match hexQuad? a b c d with
      | none => .error .malformed
      | some n =>
          if isLowSurrogate n then .error .malformed
          else if isHighSurrogate n then
            match rest with
            | '\\' :: 'u' :: e :: f :: g :: h :: rest =>
                match hexQuad? e f g h with
                | none => .error .malformed
                | some m =>
                    if isLowSurrogate m then (surrogatePair n m :: ·) <$> readString rest
                    else .error .malformed
            | '\\' :: 'u' :: rest => .error (brokenEscape rest)
            | ['\\'] | [] => .error .truncated
            | _ => .error .malformed
          else (Char.ofNat n :: ·) <$> readString rest
  | '\\' :: 'u' :: rest => .error (brokenEscape rest)
  | '\\' :: c :: rest =>
      match escaped? c with
      | some plain => (plain :: ·) <$> readString rest
      | none => .error .malformed
  | ['\\'] => .error .truncated
  | c :: rest => if isControl c then .error .malformed else (c :: ·) <$> readString rest

theorem length_lt_of_skipString {cs rest : List Char} (h : skipString cs = .ok rest) :
    rest.length < cs.length := by
  fun_induction skipString cs <;> simp_all <;> omega

def skipWord : List Char → List Char → Except Fault (List Char)
  | [], rest => .ok rest
  | _ :: _, [] => .error .truncated
  | w :: word, c :: rest => if c = w then skipWord word rest else .error .malformed

theorem length_le_of_skipWord {word cs rest : List Char} (h : skipWord word cs = .ok rest) :
    rest.length ≤ cs.length := by
  fun_induction skipWord word cs <;> simp_all
  omega

/-- The digits that a text begins with, and what follows them. -/
def digitRun : List Char → List Nat × List Char
  | [] => ([], [])
  | c :: rest =>
      match digitValue? c with
      | some digit => (digit :: (digitRun rest).1, (digitRun rest).2)
      | none => ([], c :: rest)

theorem length_digitRun (cs : List Char) :
    (digitRun cs).1.length + (digitRun cs).2.length = cs.length := by
  fun_induction digitRun cs with
  | case1 => rfl
  | case2 c rest digit _ ih =>
      simp only [List.length_cons]
      omega
  | case3 => simp only [List.length_nil, Nat.zero_add]

/-- The faults, of reading and of skipping, of a number that breaks off before a digit. -/
def missingDigit : List Char → Fault × Fault
  | [] => (.truncated, .malformed)
  | _ :: _ => (.malformed, .malformed)

def scanDigits (cs : List Char) : Except (Fault × Fault) (List Nat × List Char) :=
  let run := digitRun cs
  if run.1 = [] then .error (missingDigit cs) else .ok run

/-- The digits before the point: a zero is not followed by another digit. -/
def scanWhole (cs : List Char) : Except (Fault × Fault) (List Nat × List Char) :=
  match scanDigits cs with
  | .ok (0 :: _ :: _, _) => .error (.malformed, .malformed)
  | result => result

/-- The digits behind the point, if there is a point. -/
def scanFraction : List Char → Except (Fault × Fault) (List Nat × List Char)
  | '.' :: rest => scanDigits rest
  | cs => .ok ([], cs)

def scanSign : List Char → Bool × List Char
  | '-' :: rest => (true, rest)
  | '+' :: rest => (false, rest)
  | cs => (false, cs)

def ofDigits (digits : List Nat) : Nat :=
  digits.foldl (fun value digit => 10 * value + digit) 0

/-- The exponent, if there is one. -/
def scanExponent : List Char → Except (Fault × Fault) (Option Int × List Char)
  | 'e' :: rest | 'E' :: rest =>
      let signed := scanSign rest
      (scanDigits signed.2).map fun run =>
        (some (if signed.1 then -(ofDigits run.1) else ofDigits run.1), run.2)
  | cs => .ok (none, cs)

/-- The numeral that a text begins with, behind its sign. -/
def scanNumeral (negative : Bool) (cs : List Char) :
    Except (Fault × Fault) (Numeral × List Char) := do
  let whole ← scanWhole cs
  let fraction ← scanFraction whole.2
  let exponent ← scanExponent fraction.2
  return (⟨negative, whole.1, fraction.1, exponent.1⟩, exponent.2)

theorem length_lt_of_scanDigits {cs : List Char} {run : List Nat × List Char}
    (h : scanDigits cs = .ok run) : run.2.length < cs.length := by
  have := length_digitRun cs
  simp only [scanDigits] at h
  split at h
  · cases h
  next hne =>
    cases h
    have := List.length_pos_iff.mpr hne
    omega

theorem length_lt_of_scanWhole {cs : List Char} {run : List Nat × List Char}
    (h : scanWhole cs = .ok run) : run.2.length < cs.length := by
  simp only [scanWhole] at h
  split at h
  · cases h
  · exact length_lt_of_scanDigits h

theorem length_le_of_scanFraction {cs : List Char} {run : List Nat × List Char}
    (h : scanFraction cs = .ok run) : run.2.length ≤ cs.length := by
  unfold scanFraction at h
  split at h
  · have := length_lt_of_scanDigits h
    simp only [List.length_cons]
    omega
  · cases h
    exact Nat.le_refl _

theorem length_scanSign (cs : List Char) : (scanSign cs).2.length ≤ cs.length := by
  unfold scanSign
  split <;> simp

theorem length_le_of_scanExponent {cs : List Char} {run : Option Int × List Char}
    (h : scanExponent cs = .ok run) : run.2.length ≤ cs.length := by
  unfold scanExponent at h
  split at h
  case h_3 => cases h; exact Nat.le_refl _
  all_goals
    next rest =>
      have hsign := length_scanSign rest
      cases hdigits : scanDigits (scanSign rest).2 with
      | error => simp [hdigits, Except.map] at h
      | ok digits =>
          have := length_lt_of_scanDigits hdigits
          simp only [hdigits, Except.map, Except.ok.injEq] at h
          subst h
          simp only [List.length_cons]
          omega

theorem length_lt_of_scanNumeral {negative : Bool} {cs : List Char}
    {result : Numeral × List Char} (h : scanNumeral negative cs = .ok result) :
    result.2.length < cs.length := by
  simp only [scanNumeral, bind, Except.bind] at h
  cases hwhole : scanWhole cs with
  | error => simp [hwhole] at h
  | ok whole =>
      cases hfraction : scanFraction whole.2 with
      | error => simp [hwhole, hfraction] at h
      | ok fraction =>
          cases hexponent : scanExponent fraction.2 with
          | error => simp [hwhole, hfraction, hexponent] at h
          | ok exponent =>
              have hfirst := length_lt_of_scanWhole hwhole
              have hsecond := length_le_of_scanFraction hfraction
              have hthird := length_le_of_scanExponent hexponent
              simp only [hwhole, hfraction, hexponent, pure, Except.pure,
                Except.ok.injEq] at h
              subst h
              simp only
              omega

/-- The words of JSON, each with its first letter and the rest. -/
def word? : Char → Option (Token × List Char)
  | 'n' => some (.null, ['u', 'l', 'l'])
  | 't' => some (.bool true, ['r', 'u', 'e'])
  | 'f' => some (.bool false, ['a', 'l', 's', 'e'])
  | _ => none

def punctuation? : Char → Option Token
  | '\x7b' => some .openBrace
  | '\x7d' => some .closeBrace
  | '[' => some .openBracket
  | ']' => some .closeBracket
  | ',' => some .comma
  | ':' => some .colon
  | _ => none

def stringContent (cs : List Char) : Except Fault String :=
  (readString cs).map String.ofList

def brokenString (cs : List Char) (skipping : Fault) : Token :=
  match readString cs with
  | .error reading => .brokenString reading skipping
  | .ok _ => .brokenString skipping skipping

/-- The tokens of a text, up to the first broken one. -/
def tokens (cs : List Char) : List Token :=
  match cs with
  | [] => []
  | c :: rest =>
      if isBlank c then tokens rest
      else if c = '"' then
        match _h : skipString rest with
        | .ok behind => .string (stringContent rest) :: tokens behind
        | .error fault => [brokenString rest fault]
      else if c = '-' then
        match _h : scanNumeral true rest with
        | .ok (numeral, behind) => .number numeral :: tokens behind
        | .error (reading, skipping) => [.brokenNumber reading skipping]
      else if c.isDigit then
        match _h : scanNumeral false (c :: rest) with
        | .ok (numeral, behind) => .number numeral :: tokens behind
        | .error (reading, skipping) => [.brokenNumber reading skipping]
      else
        match punctuation? c with
        | some token => token :: tokens rest
        | none =>
            match word? c with
            | none => [.stray]
            | some (token, letters) =>
                match _h : skipWord letters rest with
                | .ok behind => token :: tokens behind
                | .error fault => [.brokenWord fault]
termination_by cs.length
decreasing_by
  · simp
  · have := length_lt_of_skipString _h
    simp only [List.length_cons]
    omega
  · have := length_lt_of_scanNumeral _h
    simp only [List.length_cons] at this ⊢
    omega
  · have := length_lt_of_scanNumeral _h
    simpa using this
  · simp
  · have := length_le_of_skipWord _h
    simp only [List.length_cons]
    omega

end Datatypes.Json
