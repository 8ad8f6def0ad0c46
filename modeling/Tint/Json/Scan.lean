import Tint.Json.Reader

/-!
# Scanning strings and words

A string is read after its opening quote. Where its content counts, escapes have to
write characters; where it is only passed over, they only have to be well formed.

## What is proved

* `escaped_length_lt`: an escape takes at least one character, so that scanning a
  string ends.
-/

namespace Tint.Json

open Reader

/-- The value of the character as a hexadecimal digit. The last four bits of its code are
the value of a decimal digit, and nine less than that of a letter. -/
def hexDigit? (c : Char) : Option Nat :=
  if '0' ≤ c ∧ c ≤ '9' then some (c.toNat % 16)
  else if 'a' ≤ c ∧ c ≤ 'f' then some (c.toNat % 16 + 9)
  else if 'A' ≤ c ∧ c ≤ 'F' then some (c.toNat % 16 + 9)
  else none

/-- The number that four hexadecimal digits at the front write, and the rest. Four
bytes have to be there. -/
def fourHex : List Char → Except Stop (Nat × List Char)
  | a :: b :: c :: d :: rest =>
    match hexDigit? a, hexDigit? b, hexDigit? c, hexDigit? d with
    | some w, some x, some y, some z => .ok (((w * 16 + x) * 16 + y) * 16 + z, rest)
    | _, _, _, _ => .error ⟨.badEscape, some (byteLength (a :: b :: c :: d :: rest) - 4)⟩
  | s =>
    if byteLength s < 4 then .error ⟨.endInString, some 0⟩
    else .error ⟨.badEscape, some (byteLength s - 4)⟩

/-- The second half of a surrogate pair: another escape, whose number has to be that of
a low surrogate. -/
def lowSurrogate : List Char → Except Stop (Nat × List Char)
  | [] => .error ⟨.endInString, some 0⟩
  | '\\' :: 'u' :: rest => do
    let (low, after) ← fourHex rest
    if 0xDC00 ≤ low ∧ low ≤ 0xDFFF then .ok (low, after)
    else .error ⟨.loneSurrogate, some (byteLength after)⟩
  | ['\\'] => .error ⟨.endInString, some 0⟩
  | '\\' :: rest => .error ⟨.unfinishedSurrogate, some (byteLength rest - 1)⟩
  | s => .error ⟨.unfinishedSurrogate, some (byteLength s - 1)⟩

/-- The character that a number escape writes, its digits being at the front. Without
`strict` surrogates are passed over. -/
def numberEscape (strict : Bool) (s : List Char) : Except Stop (Char × List Char) := do
  let (first, rest) ← fourHex s
  if !strict then .ok (Char.ofNat first, rest)
  else if 0xDC00 ≤ first ∧ first ≤ 0xDFFF then .error ⟨.loneSurrogate, some (byteLength rest)⟩
  else if 0xD800 ≤ first ∧ first ≤ 0xDBFF then
    let (low, after) ← lowSurrogate rest
    .ok (Char.ofNat ((first - 0xD800) * 1024 + (low - 0xDC00) + 0x10000), after)
  else .ok (Char.ofNat first, rest)

/-- The character that an escape writes, what follows the backslash being at the
front, and the rest. -/
def escaped (strict : Bool) : List Char → Except Stop (Char × List Char)
  | [] => .error ⟨.endInString, some 0⟩
  | c :: rest =>
    if c = '"' ∨ c = '\\' ∨ c = '/' then .ok (c, rest)
    else if c = 'b' then .ok ('\x08', rest)
    else if c = 'f' then .ok ('\x0c', rest)
    else if c = 'n' then .ok ('\n', rest)
    else if c = 'r' then .ok ('\r', rest)
    else if c = 't' then .ok ('\t', rest)
    else if c = 'u' then numberEscape strict rest
    else .error ⟨.badEscape, some (byteLength (c :: rest) - 1)⟩

theorem fourHex_length_lt {s : List Char} {n : Nat} {rest : List Char}
    (h : fourHex s = .ok (n, rest)) : rest.length < s.length := by
  unfold fourHex at h
  split at h
  · split at h
    · simp only [Except.ok.injEq, Prod.mk.injEq] at h
      simp only [List.length_cons, ← h.2]
      omega
    · simp at h
  · split at h <;> simp at h

theorem lowSurrogate_length_lt {s : List Char} {n : Nat} {rest : List Char}
    (h : lowSurrogate s = .ok (n, rest)) : rest.length < s.length := by
  unfold lowSurrogate at h
  split at h
  · simp at h
  · rename_i inner
    cases hf : fourHex inner with
    | error e => simp [hf, bind, Except.bind] at h
    | ok pair =>
      obtain ⟨low, after⟩ := pair
      have := fourHex_length_lt hf
      simp only [hf, bind, Except.bind] at h
      split at h
      · simp only [Except.ok.injEq, Prod.mk.injEq] at h
        simp only [List.length_cons, ← h.2]
        omega
      · simp at h
  · simp at h
  · simp at h
  · simp at h

theorem numberEscape_length_lt {strict : Bool} {s : List Char} {c : Char} {rest : List Char}
    (h : numberEscape strict s = .ok (c, rest)) : rest.length < s.length := by
  unfold numberEscape at h
  cases hf : fourHex s with
  | error e => simp [hf, bind, Except.bind] at h
  | ok pair =>
    obtain ⟨first, after⟩ := pair
    have shorter := fourHex_length_lt hf
    simp only [hf, bind, Except.bind] at h
    split at h
    · simp only [Except.ok.injEq, Prod.mk.injEq] at h
      rw [← h.2]; exact shorter
    · split at h
      · simp at h
      · split at h
        · cases hl : lowSurrogate after with
          | error e => simp [hl] at h
          | ok pair =>
            obtain ⟨low, last⟩ := pair
            have := lowSurrogate_length_lt hl
            simp only [hl, Except.ok.injEq, Prod.mk.injEq] at h
            rw [← h.2]; omega
        · simp only [Except.ok.injEq, Prod.mk.injEq] at h
          rw [← h.2]; exact shorter

theorem escaped_length_lt {strict : Bool} {s : List Char} {c : Char} {rest : List Char}
    (h : escaped strict s = .ok (c, rest)) : rest.length < s.length := by
  unfold escaped at h
  split at h
  · simp at h
  · rename_i d tail
    have simple : ∀ e : Char, (Except.ok (e, tail) : Except Stop (Char × List Char)) =
        .ok (c, rest) → rest.length < (d :: tail).length := by
      intro e he
      simp only [Except.ok.injEq, Prod.mk.injEq] at he
      simp [← he.2]
    repeat' split at h
    all_goals first
      | exact simple _ h
      | exact Nat.lt_succ_of_lt (numberEscape_length_lt h)
      | simp at h

/-- The content of a string, up to the closing quote, and the rest. A control character
stops reading; with `strict`, just after it. -/
def scanString (strict : Bool) (s : List Char) : Except Stop (List Char × List Char) :=
  match s with
  | [] => .error ⟨.endInString, some 0⟩
  | c :: rest =>
    if c = '"' then .ok ([], rest)
    else if c = '\\' then
      match h : escaped strict rest with
      | .error e => .error e
      | .ok (d, after) =>
        have : after.length < rest.length := escaped_length_lt h
        (scanString strict after).map fun (content, last) => (d :: content, last)
    else if c < ' ' then
      .error ⟨.controlCharacter, some (byteLength (c :: rest) - if strict then 1 else 0)⟩
    else (scanString strict rest).map fun (content, last) => (c :: content, last)
termination_by s.length

namespace Reader

/-- A reader made of a scanner. -/
def ofScan {α : Type} (scan : List Char → Except Stop (α × List Char)) : Reader α := fun s =>
  match scan s with
  | .ok (a, rest) => (.ok a, rest)
  | .error e => (.error e, s)

/-- The content of a string, after its opening quote. -/
def string : Reader (List Char) := ofScan (scanString true)

/-- Pass over a string, after its opening quote. -/
def passString : Reader Unit := do
  let _ ← ofScan (scanString false)

/-- Take the rest of a word. -/
def word : List Char → Reader Unit
  | [] => pure ()
  | w :: ws => do
    match (← look).head? with
    | none => stop .endInValue
    | some c =>
      if c = w then
        skip
        word ws
      else stopAfter .expectedWord

/-- Take the colon between a key and its value. -/
def colon : Reader Unit := do
  match ← next with
  | none => stopAfter .endInObject
  | some c => if c = ':' then skip else stopAfter .expectedColon

end Reader

end Tint.Json
