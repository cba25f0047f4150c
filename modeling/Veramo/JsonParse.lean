import Veramo.Json
import Mathlib.Algebra.Group.Nat.Basic

/-!
This module contains `JSON.parse` and its round trip with `Json.stringify`: for every JSON value
`j`, `parse (stringify j) = some j` (`parse_stringify`).

`parse` follows the JSON grammar: whitespace between tokens, the three literals, strings with all
their escapes (a `\u` surrogate pair is one character; a lone surrogate, which a Lean string
cannot hold, is refused), numbers with their fraction and exponent, arrays and objects. A number
is kept as the decimal the text spells, without trailing zeros (`Number.ofDecimal`); the rounding
to a double is left out. An object keeps its members as the text lists them, repeated names
included, and `get?` reads the last of them, as a property of what `JSON.parse` returns does.

The value, element and member parsers share one fuel argument. `parse` gives the length of the
text, and each nested parser works on a shorter part of it; the round trip shows that this is
enough for every text `stringify` writes.
-/

namespace Veramo

namespace Json

/-! ## Scanners -/

/-- JSON's whitespace: space, tab, line feed and carriage return. -/
def isWs (c : Char) : Bool :=
  c == ' ' || c == '\t' || c == '\n' || c == '\r'

def skipWs : List Char → List Char
  | [] => []
  | c :: cs => if isWs c then skipWs cs else c :: cs

/-- The value of a hexadecimal digit, in either case. -/
def hexVal (c : Char) : Option Nat :=
  if c.isDigit then some (c.toNat - '0'.toNat)
  else if 'a' ≤ c ∧ c ≤ 'f' then some (c.toNat - 'a'.toNat + 10)
  else if 'A' ≤ c ∧ c ≤ 'F' then some (c.toNat - 'A'.toNat + 10)
  else none

/-- The code unit that the four hexadecimal digits of a `\u` escape spell. -/
def hex4 (a b c d : Char) : Option Nat :=
  match hexVal a, hexVal b, hexVal c, hexVal d with
  | some a, some b, some c, some d => some (4096 * a + 256 * b + 16 * c + d)
  | _, _, _, _ => none

/-- The four hexadecimal digits at the start of the text, and the text after them. -/
def parseHex4 : List Char → Option (Nat × List Char)
  | a :: b :: c :: d :: rest => (hex4 a b c d).map fun u => (u, rest)
  | _ => none

/-- The character of a two-character escape, other than `\u`. -/
def unescape : Char → Option Char
  | '"' => some '"'
  | '\\' => some '\\'
  | '/' => some '/'
  | 'b' => some (Char.ofNat 8)
  | 'f' => some (Char.ofNat 12)
  | 'n' => some '\n'
  | 'r' => some '\r'
  | 't' => some '\t'
  | _ => none

/--
The escape after a backslash: the character it stands for, and the text after it. The `\u`
escape of a high surrogate takes the `\u` escape of its low surrogate with it; a lone surrogate
is refused.
-/
def parseEscape : List Char → Option (Char × List Char)
  | [] => none
  | e :: cs =>
    if e = 'u' then
      match parseHex4 cs with
      | none => none
      | some (u, rest) =>
        if 0xDC00 ≤ u ∧ u < 0xE000 then none
        else if u < 0xD800 ∨ 0xDC00 ≤ u then some (Char.ofNat u, rest)
        else
          match rest with
          | '\\' :: 'u' :: rest =>
            match parseHex4 rest with
            | some (v, rest) =>
              if 0xDC00 ≤ v ∧ v < 0xE000 then
                some (Char.ofNat (0x10000 + (u - 0xD800) * 0x400 + (v - 0xDC00)), rest)
              else none
            | none => none
          | _ => none
    else (unescape e).map fun c => (c, cs)

theorem parseHex4_length {cs rest : List Char} {u : Nat} (h : parseHex4 cs = some (u, rest)) :
    rest.length + 4 = cs.length := by
  unfold parseHex4 at h
  split at h
  · simp only [Option.map_eq_some', Prod.mk.injEq] at h
    obtain ⟨_, -, -, rfl⟩ := h
    rfl
  · cases h

theorem parseEscape_length {cs rest : List Char} {c : Char} (h : parseEscape cs = some (c, rest)) :
    rest.length < cs.length := by
  unfold parseEscape at h
  split at h
  · cases h
  · rename_i e cs
    split_ifs at h
    · split at h
      · cases h
      · rename_i u rest' hx
        have h₁ := parseHex4_length hx
        split_ifs at h
        · simp only [Option.some.injEq, Prod.mk.injEq] at h
          rw [← h.2, List.length_cons]; omega
        · split at h
          · split at h
            · rename_i v rest'' hy
              have h₂ := parseHex4_length hy
              split_ifs at h
              simp only [Option.some.injEq, Prod.mk.injEq] at h
              rw [← h.2]
              simp only [List.length_cons] at h₁ ⊢
              omega
            · cases h
          · cases h
    · simp only [Option.map_eq_some', Prod.mk.injEq] at h
      obtain ⟨_, -, -, rfl⟩ := h
      simp

/-- Puts `c` in front of the characters that a parse of the rest of a string returns. -/
def consChar (c : Char) : Option (List Char × List Char) → Option (List Char × List Char) :=
  Option.map fun r => (c :: r.1, r.2)

/-- The characters of a string after its opening quote, and the text after its closing quote. -/
def parseChars : List Char → Option (List Char × List Char)
  | [] => none
  | c :: cs =>
    if c = '"' then some ([], cs)
    else if c = '\\' then
      match h : parseEscape cs with
      | some (e, rest) =>
        have : rest.length < cs.length := parseEscape_length h
        consChar e (parseChars rest)
      | none => none
    else if c.toNat < 0x20 then none
    else consChar c (parseChars cs)
termination_by cs => cs.length

/-- `10 * acc` and the decimal digit `c`. -/
def pushDigit (acc : Nat) (c : Char) : Nat := 10 * acc + (c.toNat - '0'.toNat)

/-- The decimal digits at the start of the text, and the text after them. -/
def spanDigits : List Char → List Char × List Char
  | [] => ([], [])
  | c :: cs => if c.isDigit then (c :: (spanDigits cs).1, (spanDigits cs).2) else ([], c :: cs)

/-- The integer part of a number: `0`, or a nonzero digit and the digits after it. -/
def parseIntPart : List Char → Option (List Char × List Char)
  | [] => none
  | c :: cs =>
    if c = '0' then some (['0'], cs)
    else if c.isDigit then some (c :: (spanDigits cs).1, (spanDigits cs).2)
    else none

/-- The fraction of a number, a `.` and at least one digit; without a `.` it has none. -/
def parseFraction : List Char → Option (List Char × List Char)
  | '.' :: cs => if (spanDigits cs).1 = [] then none else some (spanDigits cs)
  | cs => some ([], cs)

/-- The digits of an exponent, at least one, with the sign before them. -/
def parseExponentDigits (negative : Bool) (cs : List Char) : Option (Int × List Char) :=
  if (spanDigits cs).1 = [] then none
  else
    let e : Int := ((spanDigits cs).1.foldl pushDigit 0 : Nat)
    some (if negative then -e else e, (spanDigits cs).2)

/-- The exponent of a number, `e` or `E`, a sign if any and its digits; without one it is `0`. -/
def parseExponent : List Char → Option (Int × List Char)
  | [] => some (0, [])
  | c :: cs =>
    if c = 'e' ∨ c = 'E' then
      match cs with
      | '+' :: ds => parseExponentDigits false ds
      | '-' :: ds => parseExponentDigits true ds
      | ds => parseExponentDigits false ds
    else some (0, c :: cs)

/-- `s × 10 ^ e` with at most `fuel` trailing zeros of `s` moved into the exponent. -/
def trimZeros : Nat → Nat → Int → Nat × Int
  | 0, s, e => (s, e)
  | fuel + 1, s, e => if s ≠ 0 ∧ s % 10 = 0 then trimZeros fuel (s / 10) (e + 1) else (s, e)

theorem trimZeros_normal : ∀ {fuel s : Nat} (e : Int), s ≠ 0 → s ≤ fuel →
    (trimZeros fuel s e).1 % 10 ≠ 0
  | 0, _, _, hs, hf => absurd hf (by omega)
  | fuel + 1, s, e, hs, hf => by
    rw [trimZeros]
    split_ifs with h
    · exact trimZeros_normal (e + 1) (by omega) (by omega)
    · omega

/-- The number `±s × 10 ^ e`, in the form with no trailing zero. -/
def Number.ofDecimal (negative : Bool) (s : Nat) (e : Int) : Number :=
  if h : s = 0 then ⟨false, 0, 0, .inr ⟨rfl, rfl, rfl⟩⟩
  else ⟨negative, (trimZeros s s e).1, (trimZeros s s e).2,
    .inl (trimZeros_normal e h (Nat.le_refl s))⟩

/-- A number without its sign: the integer part, a fraction and an exponent. -/
def parseUnsigned (negative : Bool) (cs : List Char) : Option (Number × List Char) :=
  match parseIntPart cs with
  | none => none
  | some (int, cs) =>
    match parseFraction cs with
    | none => none
    | some (frac, cs) =>
      match parseExponent cs with
      | none => none
      | some (exp, rest) =>
        some (Number.ofDecimal negative ((int ++ frac).foldl pushDigit 0) (exp - frac.length),
          rest)

/-- A JSON number: a `-`, if any, then the number without its sign. -/
def parseNumber : List Char → Option (Number × List Char)
  | [] => none
  | c :: cs => if c = '-' then parseUnsigned true cs else parseUnsigned false (c :: cs)

/-- The literals `null`, `true` and `false`. -/
def parseLiteral : List Char → Option (Json × List Char)
  | 'n' :: 'u' :: 'l' :: 'l' :: rest => some (null, rest)
  | 't' :: 'r' :: 'u' :: 'e' :: rest => some (bool true, rest)
  | 'f' :: 'a' :: 'l' :: 's' :: 'e' :: rest => some (bool false, rest)
  | _ => none

/-! ## Values -/

mutual

/-- A value at the start of the text, after any whitespace, and the text after it. -/
def parseValue : Nat → List Char → Option (Json × List Char)
  | 0, _ => none
  | fuel + 1, cs =>
    match skipWs cs with
    | [] => none
    | c :: rest =>
      if c = '"' then (parseChars rest).map fun r => (str ⟨r.1⟩, r.2)
      else if c = '[' then
        if (skipWs rest).head? = some ']' then some (arr [], (skipWs rest).tail)
        else (parseElems fuel rest).map fun r => (arr r.1, r.2)
      else if c = '{' then
        if (skipWs rest).head? = some '}' then some (obj [], (skipWs rest).tail)
        else (parseMembers fuel rest).map fun r => (obj r.1, r.2)
      else if c = '-' ∨ c.isDigit then (parseNumber (c :: rest)).map fun r => (num r.1, r.2)
      else parseLiteral (c :: rest)

/-- The elements of an array after its `[`, and the text after its `]`. -/
def parseElems : Nat → List Char → Option (List Json × List Char)
  | 0, _ => none
  | fuel + 1, cs =>
    match parseValue fuel cs with
    | none => none
    | some (x, rest) =>
      match skipWs rest with
      | ',' :: rest => (parseElems fuel rest).map fun r => (x :: r.1, r.2)
      | ']' :: rest => some ([x], rest)
      | _ => none

/-- The members of an object after its `{`, and the text after its `}`. -/
def parseMembers : Nat → List Char → Option (List (String × Json) × List Char)
  | 0, _ => none
  | fuel + 1, cs =>
    match skipWs cs with
    | '"' :: rest =>
      match parseChars rest with
      | none => none
      | some (k, rest) =>
        match skipWs rest with
        | ':' :: rest =>
          match parseValue fuel rest with
          | none => none
          | some (v, rest) =>
            match skipWs rest with
            | ',' :: rest => (parseMembers fuel rest).map fun r => ((⟨k⟩, v) :: r.1, r.2)
            | '}' :: rest => some ([(⟨k⟩, v)], rest)
            | _ => none
        | _ => none
    | _ => none

end

/-- `JSON.parse(text)`, `none` where it throws. -/
def parse (text : String) : Option Json :=
  match parseValue text.length text.data with
  | some (j, rest) => if skipWs rest = [] then some j else none
  | none => none

/-- A property of an object that `JSON.parse` returned: of repeated names, the last counts. -/
def get? (kvs : List (String × Json)) (name : String) : Option Json :=
  kvs.reverse.lookup name

theorem lookup_of_mem {kvs : List (String × Json)} (hnames : (kvs.map Prod.fst).Nodup)
    {name : String} {v : Json} (hm : (name, v) ∈ kvs) : kvs.lookup name = some v := by
  induction kvs with
  | nil => cases hm
  | cons p kvs ih =>
    obtain ⟨hp, hnames⟩ := List.nodup_cons.mp hnames
    rcases List.mem_cons.mp hm with rfl | hm
    · exact List.lookup_cons_self
    · have hne : name ≠ p.1 := fun h => hp (h ▸ List.mem_map_of_mem Prod.fst hm)
      rw [List.lookup_cons, beq_false_of_ne hne]
      exact ih hnames hm

theorem get?_of_mem {kvs : List (String × Json)} (hnames : (kvs.map Prod.fst).Nodup)
    {name : String} {v : Json} (hm : (name, v) ∈ kvs) : get? kvs name = some v :=
  lookup_of_mem (by rw [List.map_reverse]; exact List.pairwise_reverse.mpr (hnames.imp Ne.symm))
    (List.mem_reverse.mpr hm)

theorem get?_of_not_mem {kvs : List (String × Json)} {name : String}
    (h : name ∉ kvs.map Prod.fst) : get? kvs name = none :=
  List.lookup_eq_none_iff.mpr fun p hp => by
    have hne : name ≠ p.1 := fun he =>
      h (he ▸ List.mem_map_of_mem Prod.fst (List.mem_reverse.mp hp))
    simpa using hne

/-! ## Round trip -/

/-- What follows a value in a text `stringify` writes: the end, `,`, `]` or `}`. -/
def follows : List Char → Bool
  | [] => true
  | c :: _ => c == ',' || c == ']' || c == '}'

theorem follows_cases {rest : List Char} (h : follows rest = true) :
    rest = [] ∨ ∃ r, rest = ',' :: r ∨ rest = ']' :: r ∨ rest = '}' :: r := by
  match rest, h with
  | [], _ => exact .inl rfl
  | c :: r, h =>
    simp only [follows, Bool.or_eq_true, beq_iff_eq] at h
    rcases h with (rfl | rfl) | rfl
    exacts [.inr ⟨r, .inl rfl⟩, .inr ⟨r, .inr (.inl rfl)⟩, .inr ⟨r, .inr (.inr rfl)⟩]

theorem skipWs_cons {c : Char} (h : isWs c = false) (cs : List Char) :
    skipWs (c :: cs) = c :: cs := by
  simp [skipWs, h]

section Follows

variable {rest : List Char} (h : follows rest = true)
include h

theorem spanDigits_of_follows : spanDigits rest = ([], rest) := by
  rcases follows_cases h with rfl | ⟨r, rfl | rfl | rfl⟩ <;> rfl

theorem parseFraction_of_follows : parseFraction rest = some ([], rest) := by
  rcases follows_cases h with rfl | ⟨r, rfl | rfl | rfl⟩ <;> rfl

theorem parseExponent_of_follows : parseExponent rest = some (0, rest) := by
  rcases follows_cases h with rfl | ⟨r, rfl | rfl | rfl⟩ <;> rfl

end Follows

/-! ### Numbers -/

theorem digitChar_of_lt_ten : ∀ d < 10, (Nat.digitChar d).isDigit = true ∧
    (Nat.digitChar d).toNat - '0'.toNat = d ∧ (Nat.digitChar d = '0' → d = 0) := by
  decide

theorem foldl_pushDigit (D : List Char) (acc : Nat) :
    D.foldl pushDigit acc = acc * 10 ^ D.length + D.foldl pushDigit 0 := by
  induction D generalizing acc with
  | nil => simp
  | cons c D ih =>
    rw [List.foldl_cons, List.foldl_cons, ih, ih (pushDigit 0 c), List.length_cons, Nat.pow_succ]
    simp only [pushDigit, Nat.add_mul, Nat.mul_zero, Nat.zero_add]
    rw [Nat.mul_comm 10 acc, Nat.mul_assoc, Nat.mul_comm 10, Nat.add_assoc]

theorem foldl_pushDigit_zeros (j acc : Nat) :
    (List.replicate j '0').foldl pushDigit acc = acc * 10 ^ j := by
  rw [foldl_pushDigit, List.length_replicate]
  induction j with
  | zero => rfl
  | succ j ih => simpa [List.replicate_succ, pushDigit] using ih

theorem spanDigits_append {D : List Char} (hD : ∀ c ∈ D, c.isDigit = true) {rest : List Char}
    (hr : spanDigits rest = ([], rest)) : spanDigits (D ++ rest) = (D, rest) := by
  induction D with
  | nil => exact hr
  | cons c D ih =>
    rw [List.forall_mem_cons] at hD
    rw [List.cons_append, spanDigits, if_pos hD.1, ih hD.2]

theorem toDigitsCore_eq {f n : Nat} (hf : n < f) (ds : List Char) :
    ∃ c D, Nat.toDigitsCore 10 f n ds = c :: D ++ ds ∧ (∀ d ∈ c :: D, d.isDigit = true) ∧
      (c :: D).foldl pushDigit 0 = n ∧ (c = '0' → n = 0) := by
  induction f generalizing n ds with
  | zero => omega
  | succ f ih =>
    obtain ⟨hdig, hval, hzero⟩ := digitChar_of_lt_ten (n % 10) (Nat.mod_lt _ (by decide))
    have hstep : Nat.toDigitsCore 10 (f + 1) n ds = if n / 10 = 0 then Nat.digitChar (n % 10) :: ds
        else Nat.toDigitsCore 10 f (n / 10) (Nat.digitChar (n % 10) :: ds) := rfl
    by_cases h0 : n / 10 = 0
    · refine ⟨Nat.digitChar (n % 10), [], by rw [hstep, if_pos h0]; rfl, by simpa using hdig, ?_,
        fun h => ?_⟩
      · simp only [List.foldl, pushDigit, hval]; omega
      · have := hzero h; omega
    · obtain ⟨c, D, hD, hdigs, hvals, hc⟩ :=
        ih (show n / 10 < f by omega) (Nat.digitChar (n % 10) :: ds)
      refine ⟨c, D ++ [Nat.digitChar (n % 10)], ?_, ?_, ?_, fun h => absurd (hc h) h0⟩
      · rw [hstep, if_neg h0, hD]
        simp only [List.cons_append, List.append_assoc, List.nil_append]
      · intro d hd
        simp only [← List.cons_append, List.mem_append, List.mem_singleton] at hd
        rcases hd with hd | rfl
        exacts [hdigs d hd, hdig]
      · rw [← List.cons_append, List.foldl_append, hvals]
        simp only [List.foldl, pushDigit, hval]
        omega

theorem toDigits_eq (n : Nat) :
    ∃ c D, Nat.toDigits 10 n = c :: D ∧ (∀ d ∈ c :: D, d.isDigit = true) ∧
      (c :: D).foldl pushDigit 0 = n ∧ (c = '0' → n = 0) := by
  obtain ⟨c, D, hD, h⟩ := toDigitsCore_eq (Nat.lt_succ_self n) []
  exact ⟨c, D, by rw [← List.append_nil (c :: D), ← hD]; rfl, h⟩

theorem parseIntPart_digits {c : Char} {D rest : List Char} (hc : c ≠ '0')
    (hD : ∀ d ∈ c :: D, d.isDigit = true) (hr : spanDigits rest = ([], rest)) :
    parseIntPart (c :: (D ++ rest)) = some (c :: D, rest) := by
  rw [List.forall_mem_cons] at hD
  rw [parseIntPart, if_neg hc, if_pos hD.1, spanDigits_append hD.2 hr]

theorem parseFraction_digits {D rest : List Char} (hD : ∀ d ∈ D, d.isDigit = true) (hne : D ≠ [])
    (hr : spanDigits rest = ([], rest)) : parseFraction ('.' :: (D ++ rest)) = some (D, rest) := by
  simp only [parseFraction, spanDigits_append hD hr, if_neg hne]

theorem parseExponent_exponentText (m : Int) {rest : List Char}
    (hr : spanDigits rest = ([], rest)) :
    parseExponent (Number.exponentText m ++ rest) = some (m, rest) := by
  obtain ⟨c, D, hds, hdig, hval, -⟩ := toDigits_eq m.natAbs
  have hspan := spanDigits_append hdig hr
  rw [← hds] at hspan hval
  have hne : Nat.toDigits 10 m.natAbs ≠ [] := by rw [hds]; exact List.cons_ne_nil _ _
  unfold Number.exponentText
  split_ifs with hm
  · simp only [List.cons_append, parseExponent, parseExponentDigits, hspan, if_neg hne, hval,
      true_or, Bool.false_eq_true, ↓reduceIte, Int.natAbs_of_nonneg hm]
  · simp only [List.cons_append, parseExponent, parseExponentDigits, hspan, if_neg hne, hval,
      true_or, ↓reduceIte, Option.some.injEq, Prod.mk.injEq, and_true]
    omega

theorem parseUnsigned_eq {negative : Bool} {cs cs₁ cs₂ rest int frac : List Char} {exp : Int}
    (h₁ : parseIntPart cs = some (int, cs₁)) (h₂ : parseFraction cs₁ = some (frac, cs₂))
    (h₃ : parseExponent cs₂ = some (exp, rest)) :
    parseUnsigned negative cs = some (Number.ofDecimal negative ((int ++ frac).foldl pushDigit 0)
      (exp - frac.length), rest) := by
  simp only [parseUnsigned, h₁, h₂, h₃]

theorem trimZeros_mul {s : Nat} (hs : s % 10 ≠ 0) :
    ∀ {j fuel : Nat} (e : Int), j ≤ fuel → trimZeros fuel (s * 10 ^ j) e = (s, e + j)
  | 0, 0, e, _ => by simp [trimZeros]
  | 0, fuel + 1, e, _ => by simp [trimZeros, hs]
  | j + 1, fuel + 1, e, hj => by
    have hpos : 0 < s * 10 ^ j := Nat.mul_pos (by omega) (Nat.pow_pos (by decide))
    rw [Nat.pow_succ, ← Nat.mul_assoc, trimZeros, if_pos ⟨by omega, by omega⟩,
      Nat.mul_div_cancel _ (by decide), trimZeros_mul hs (e + 1) (by omega)]
    simp only [Prod.mk.injEq, true_and]
    omega

theorem Number.ofDecimal_eq (x : Number) (hx : x.significand ≠ 0) {v : Nat} {e : Int} (j : Nat)
    (hv : v = x.significand * 10 ^ j) (he : e = x.exponent - j) :
    Number.ofDecimal x.negative v e = x := by
  obtain ⟨negative, s, exp, hn⟩ := x
  simp only at hx hv he ⊢
  subst hv he
  have hs : s % 10 ≠ 0 := hn.resolve_right fun h => hx h.1
  have hlt : ∀ i, i < 10 ^ i := fun i => by
    induction i with
    | zero => decide
    | succ i ih => rw [Nat.pow_succ]; omega
  have hj : j ≤ s * 10 ^ j :=
    Nat.le_trans (Nat.le_of_lt (hlt j)) (Nat.le_mul_of_pos_left _ (by omega))
  rw [Number.ofDecimal,
    dif_neg (Nat.mul_ne_zero hx (Nat.pos_iff_ne_zero.mp (Nat.pow_pos (by decide))))]
  simp only [trimZeros_mul hs _ hj, Number.mk.injEq, true_and]
  omega

theorem positiveText_head {c : Char} {D : List Char} (hD : ∀ d ∈ c :: D, d.isDigit = true)
    (n : Int) : ∃ c' cs, Number.positiveText (c :: D) n = c' :: cs ∧ c'.isDigit = true := by
  have hc := hD c (List.mem_cons_self _ _)
  unfold Number.positiveText
  split_ifs with hA hB
  · exact ⟨c, _, rfl, hc⟩
  · obtain ⟨m, hm⟩ : ∃ m, n.toNat = m + 1 := ⟨n.toNat - 1, by omega⟩
    exact ⟨c, _, by rw [hm]; rfl, hc⟩
  · exact ⟨'0', _, rfl, rfl⟩
  · cases D <;> exact ⟨c, _, rfl, hc⟩

theorem parseUnsigned_positiveText (x : Number) (hx : x.significand ≠ 0) {rest : List Char}
    (h : follows rest = true) :
    parseUnsigned x.negative (Number.positiveText (Nat.toDigits 10 x.significand)
      (x.exponent + (Nat.toDigits 10 x.significand).length) ++ rest) = some (x, rest) := by
  obtain ⟨c, D, hds, hdig, hval, hc0⟩ := toDigits_eq x.significand
  have hc : c ≠ '0' := fun h => hx (hc0 h)
  have hr := spanDigits_of_follows h
  have hdigD : ∀ d ∈ D, d.isDigit = true := fun d hd => hdig d (List.mem_cons_of_mem _ hd)
  rw [hds]
  unfold Number.positiveText
  split_ifs with hA hB hC
  · -- the digits, then the zeros of a nonnegative exponent
    have hz : ∀ d ∈ c :: (D ++ List.replicate (x.exponent + ↑(c :: D).length -
        ↑(c :: D).length).toNat '0'), d.isDigit = true := by
      intro d hd
      simp only [← List.cons_append, List.mem_append, List.mem_replicate] at hd
      rcases hd with hd | ⟨-, rfl⟩
      exacts [hdig d hd, rfl]
    rw [List.cons_append, List.cons_append, parseUnsigned_eq (parseIntPart_digits hc hz hr)
      (parseFraction_of_follows h) (parseExponent_of_follows h)]
    rw [Number.ofDecimal_eq x hx (x.exponent + ↑(c :: D).length - ↑(c :: D).length).toNat]
    · rw [List.append_nil, ← List.cons_append, List.foldl_append, hval, foldl_pushDigit_zeros]
    · simp only [List.length_nil, List.length_cons] at hA ⊢
      omega
  · -- a decimal point inside the digits
    obtain ⟨m, hm⟩ : ∃ m, (x.exponent + ↑(c :: D).length).toNat = m + 1 :=
      ⟨(x.exponent + ↑(c :: D).length).toNat - 1, by omega⟩
    have hmD : m < D.length := by simp only [List.length_cons] at hA hB hm; omega
    have hdrop : D.drop m ≠ [] := by simp only [ne_eq, List.drop_eq_nil_iff]; omega
    have h₁ := @parseIntPart_digits c (D.take m) ('.' :: (D.drop m ++ rest)) hc
      (List.forall_mem_cons.mpr ⟨hdig c (List.mem_cons_self _ _),
        fun d hd => hdigD d (List.mem_of_mem_take hd)⟩) rfl
    have h₂ := parseFraction_digits (fun d hd => hdigD d (List.mem_of_mem_drop hd)) hdrop hr
    rw [hm, List.take_succ_cons, List.drop_succ_cons]
    simp only [List.cons_append, List.append_assoc]
    rw [parseUnsigned_eq h₁ h₂ (parseExponent_of_follows h)]
    rw [Number.ofDecimal_eq x hx 0]
    · rw [List.cons_append, List.take_append_drop, hval, Nat.pow_zero, Nat.mul_one]
    · simp only [List.length_drop, List.length_cons] at hm ⊢
      omega
  · -- `0.`, the zeros of the exponent, then the digits
    have hz : ∀ d ∈ List.replicate (-(x.exponent + ↑(c :: D).length)).toNat '0' ++ c :: D,
        d.isDigit = true := by
      intro d hd
      rcases List.mem_append.mp hd with hd | hd
      · rw [(List.mem_replicate.mp hd).2]; rfl
      · exact hdig d hd
    have h₂ := parseFraction_digits hz (by simp) hr
    rw [List.cons_append, List.cons_append, parseUnsigned_eq (by rw [parseIntPart, if_pos rfl]) h₂
      (parseExponent_of_follows h)]
    rw [Number.ofDecimal_eq x hx 0]
    · have h0 : (['0'] ++ List.replicate (-(x.exponent + ↑(c :: D).length)).toNat '0').foldl
          pushDigit 0 = 0 := by
        rw [List.singleton_append, ← List.replicate_succ, foldl_pushDigit_zeros, Nat.zero_mul]
      rw [← List.append_assoc, List.foldl_append, h0, hval, Nat.pow_zero, Nat.mul_one]
    · simp only [List.length_append, List.length_replicate, List.length_cons] at hB hC ⊢
      omega
  · -- exponent notation, with a decimal point when there is more than one digit
    have hc' : ∀ d ∈ [c], d.isDigit = true := by simpa using hdig c (List.mem_cons_self _ _)
    have he := parseExponent_exponentText (x.exponent + ↑(c :: D).length - 1) hr
    cases D with
    | nil =>
      have h₁ := @parseIntPart_digits c []
        (Number.exponentText (x.exponent + ↑[c].length - 1) ++ rest) hc hc' rfl
      rw [List.nil_append] at h₁
      rw [List.cons_append, parseUnsigned_eq h₁ rfl he, Number.ofDecimal_eq x hx 0]
      · rw [List.append_nil, hval, Nat.pow_zero, Nat.mul_one]
      · simp
    | cons d D =>
      have h₁ := @parseIntPart_digits c []
        ('.' :: (d :: D ++ (Number.exponentText (x.exponent + ↑(c :: d :: D).length - 1) ++ rest)))
        hc hc' rfl
      have h₂ := @parseFraction_digits (d :: D)
        (Number.exponentText (x.exponent + ↑(c :: d :: D).length - 1) ++ rest) hdigD
        (List.cons_ne_nil d D) rfl
      simp only [List.nil_append, List.cons_append, List.append_assoc] at h₁ h₂ ⊢
      rw [parseUnsigned_eq h₁ h₂ he, Number.ofDecimal_eq x hx 0]
      · rw [List.singleton_append, hval, Nat.pow_zero, Nat.mul_one]
      · simp only [List.length_cons]
        omega

theorem Number.toString_data (x : Number) (hx : x.significand ≠ 0) :
    x.toString.data = (if x.negative then ['-'] else []) ++ Number.positiveText
      (Nat.toDigits 10 x.significand) (x.exponent + (Nat.toDigits 10 x.significand).length) := by
  simp only [Number.toString, if_neg hx]

theorem Number.toString_head (x : Number) :
    ∃ c cs, x.toString.data = c :: cs ∧ (c = '-' ∨ c.isDigit = true) := by
  by_cases hx : x.significand = 0
  · exact ⟨'0', [], by simp [Number.toString, hx], .inr rfl⟩
  obtain ⟨c, D, hds, hdig, -, -⟩ := toDigits_eq x.significand
  obtain ⟨c', cs, hcs, hc'⟩ := positiveText_head hdig (x.exponent + (c :: D).length)
  rw [Number.toString_data x hx, hds, hcs]
  cases x.negative
  · exact ⟨c', cs, rfl, .inr hc'⟩
  · exact ⟨'-', _, rfl, .inl rfl⟩

theorem parseNumber_toString (x : Number) {rest : List Char} (h : follows rest = true) :
    parseNumber (x.toString.data ++ rest) = some (x, rest) := by
  by_cases hx : x.significand = 0
  · obtain ⟨negative, s, e, hn⟩ := x
    obtain ⟨rfl, rfl, rfl⟩ := hn.resolve_left (by simp only at hx; simp [hx])
    show parseUnsigned false ('0' :: rest) = _
    rw [parseUnsigned_eq (by rw [parseIntPart, if_pos rfl]) (parseFraction_of_follows h)
      (parseExponent_of_follows h)]
    rfl
  have key := parseUnsigned_positiveText x hx h
  obtain ⟨c, D, hds, hdig, -, -⟩ := toDigits_eq x.significand
  obtain ⟨c', cs, hcs, hc'⟩ := positiveText_head hdig (x.exponent + (c :: D).length)
  rw [Number.toString_data x hx]
  rw [hds, hcs] at key ⊢
  cases hneg : x.negative
  · rw [hneg] at key
    have hc'' : c' ≠ '-' := fun h => by rw [h] at hc'; cases hc'
    rw [if_neg (by decide), List.nil_append, List.cons_append, parseNumber, if_neg hc'',
      ← List.cons_append, key]
  · rw [hneg] at key
    rw [if_pos rfl, List.singleton_append, List.cons_append, parseNumber, if_pos rfl]
    exact key

theorem numberStart {c : Char} (hc : c = '-' ∨ c.isDigit = true) :
    isWs c = false ∧ c ≠ '"' ∧ c ≠ '[' ∧ c ≠ '{' ∧ c ≠ ']' ∧ c ≠ '}' := by
  rcases hc with rfl | hc
  · decide
  · have hne : ∀ d : Char, d.isDigit = false → c ≠ d := fun d hd h => by simp [h, hd] at hc
    simp only [isWs, Bool.or_eq_false_iff, beq_eq_false_iff_ne]
    exact ⟨⟨⟨⟨hne _ rfl, hne _ rfl⟩, hne _ rfl⟩, hne _ rfl⟩, hne _ rfl, hne _ rfl, hne _ rfl,
      hne _ rfl, hne _ rfl⟩

/-! ### Strings -/

theorem parseChars_quote (t : List Char) : parseChars ('"' :: t) = some ([], t) := by
  rw [parseChars, if_pos rfl]

theorem parseChars_escaped {cs rest : List Char} {e : Char} (h : parseEscape cs = some (e, rest)) :
    parseChars ('\\' :: cs) = consChar e (parseChars rest) := by
  rw [parseChars, if_neg (by decide), if_pos rfl]
  split <;> simp_all

theorem parseChars_plain {c : Char} (h₁ : c ≠ '"') (h₂ : c ≠ '\\') (h₃ : ¬c.toNat < 0x20)
    (t : List Char) : parseChars (c :: t) = consChar c (parseChars t) := by
  rw [parseChars, if_neg h₁, if_neg h₂, if_neg h₃]

theorem hex4_digitChar : ∀ n < 32,
    hex4 '0' '0' (Nat.digitChar (n / 16)) (Nat.digitChar (n % 16)) = some n := by
  decide

theorem parseEscape_control {n : Nat} (hn : n < 32) (t : List Char) :
    parseEscape ('u' :: '0' :: '0' :: Nat.digitChar (n / 16) :: Nat.digitChar (n % 16) :: t) =
      some (Char.ofNat n, t) := by
  rw [parseEscape, if_pos rfl]
  simp only [parseHex4, hex4_digitChar n hn, Option.map_some']
  rw [if_neg (by omega), if_pos (by omega)]

theorem parseChars_escapeChar (c : Char) (t : List Char) :
    parseChars (escapeChar c ++ t) = consChar c (parseChars t) := by
  -- the branches of `escapeChar` in the order it tests them; one `rw` per `if` keeps the
  -- later conditions out of the context
  unfold escapeChar
  by_cases h₁ : c = '"'
  · rw [if_pos h₁, h₁]; exact parseChars_escaped rfl
  rw [if_neg h₁]
  by_cases h₂ : c = '\\'
  · rw [if_pos h₂, h₂]; exact parseChars_escaped rfl
  rw [if_neg h₂]
  by_cases h₃ : c = '\n'
  · rw [if_pos h₃, h₃]; exact parseChars_escaped rfl
  rw [if_neg h₃]
  by_cases h₄ : c = '\r'
  · rw [if_pos h₄, h₄]; exact parseChars_escaped rfl
  rw [if_neg h₄]
  by_cases h₅ : c = '\t'
  · rw [if_pos h₅, h₅]; exact parseChars_escaped rfl
  rw [if_neg h₅]
  by_cases h₆ : c.toNat = 8
  · rw [if_pos h₆, ← Char.ofNat_toNat c, h₆]; exact parseChars_escaped rfl
  rw [if_neg h₆]
  by_cases h₇ : c.toNat = 12
  · rw [if_pos h₇, ← Char.ofNat_toNat c, h₇]; exact parseChars_escaped rfl
  rw [if_neg h₇]
  by_cases h₈ : c.toNat < 32
  · rw [if_pos h₈]
    have := parseChars_escaped (parseEscape_control h₈ t)
    rwa [Char.ofNat_toNat] at this
  rw [if_neg h₈]
  exact parseChars_plain h₁ h₂ h₈ t

theorem parseChars_escape (cs rest : List Char) :
    parseChars (escape cs ++ '"' :: rest) = some (cs, rest) := by
  induction cs with
  | nil => exact parseChars_quote rest
  | cons c cs ih => rw [escape, List.append_assoc, parseChars_escapeChar, ih]; rfl

theorem stringify_head (j : Json) :
    ∃ c cs, (stringify j).data = c :: cs ∧ isWs c = false ∧ c ≠ ']' ∧ c ≠ '}' := by
  cases j with
  | null => exact ⟨'n', _, rfl, rfl, by decide, by decide⟩
  | bool b => cases b <;> exact ⟨_, _, rfl, rfl, by decide, by decide⟩
  | num n =>
    obtain ⟨c, cs, hcs, hc⟩ := Number.toString_head n
    obtain ⟨hws, -, -, -, h₁, h₂⟩ := numberStart hc
    exact ⟨c, cs, hcs, hws, h₁, h₂⟩
  | str s => exact ⟨'"', _, rfl, rfl, by decide, by decide⟩
  | arr xs => exact ⟨'[', _, rfl, rfl, by decide, by decide⟩
  | obj kvs => exact ⟨'{', _, rfl, rfl, by decide, by decide⟩

theorem stringify_data_length_pos (j : Json) : 0 < (stringify j).data.length := by
  obtain ⟨c, cs, e, -⟩ := stringify_head j
  rw [e]
  exact Nat.succ_pos _

theorem stringify_arr_data (xs : List Json) :
    (stringify (arr xs)).data = '[' :: ((stringifyElems xs).data ++ [']']) := rfl

theorem stringify_obj_data (kvs : List (String × Json)) :
    (stringify (obj kvs)).data = '{' :: ((stringifyMembers kvs).data ++ ['}']) := rfl

theorem stringifyElems_cons_cons_data (x y : Json) (ys : List Json) :
    (stringifyElems (x :: y :: ys)).data =
      (stringify x).data ++ ',' :: (stringifyElems (y :: ys)).data := by
  show (stringify x).data ++ [','] ++ (stringifyElems (y :: ys)).data = _
  rw [List.append_assoc]
  rfl

theorem stringifyMembers_singleton_data (k : String) (v : Json) :
    (stringifyMembers [(k, v)]).data =
      '"' :: (escape k.data ++ '"' :: ':' :: (stringify v).data) := by
  show '"' :: (escape k.data ++ ['"']) ++ [':'] ++ (stringify v).data = _
  simp only [List.cons_append, List.nil_append, List.append_assoc]

theorem stringifyMembers_cons_cons_data (k : String) (v : Json) (kv : String × Json)
    (kvs : List (String × Json)) :
    (stringifyMembers ((k, v) :: kv :: kvs)).data = '"' :: (escape k.data ++ '"' :: ':' ::
      ((stringify v).data ++ ',' :: (stringifyMembers (kv :: kvs)).data)) := by
  show '"' :: (escape k.data ++ ['"']) ++ [':'] ++ (stringify v).data ++ [','] ++
    (stringifyMembers (kv :: kvs)).data = _
  simp only [List.cons_append, List.nil_append, List.append_assoc]

theorem stringifyElems_cons (x : Json) (xs : List Json) :
    ∃ T, (stringifyElems (x :: xs)).data = (stringify x).data ++ T := by
  cases xs with
  | nil => exact ⟨[], (List.append_nil _).symm⟩
  | cons y ys => exact ⟨_, stringifyElems_cons_cons_data x y ys⟩

theorem stringifyMembers_cons (k : String) (v : Json) (kvs : List (String × Json)) :
    ∃ T, (stringifyMembers ((k, v) :: kvs)).data = '"' :: T := by
  cases kvs with
  | nil => exact ⟨_, rfl⟩
  | cons kv kvs => exact ⟨_, rfl⟩

mutual

/-- `JSON.parse` reads a value back from the text `stringify` writes, given fuel for its length. -/
theorem parseValue_stringify : ∀ (j : Json) (fuel : Nat) (rest : List Char),
    (stringify j).data.length ≤ fuel → follows rest = true →
      parseValue fuel ((stringify j).data ++ rest) = some (j, rest)
  | j, 0, _, hlen, _ => absurd hlen (by have := stringify_data_length_pos j; omega)
  | null, _ + 1, _, _, _ => rfl
  | bool true, _ + 1, _, _, _ => rfl
  | bool false, _ + 1, _, _, _ => rfl
  | num n, fuel + 1, rest, _, h => by
    obtain ⟨c, cs, hcs, hc⟩ := Number.toString_head n
    obtain ⟨hws, h₁, h₂, h₃, -, -⟩ := numberStart hc
    have hint := parseNumber_toString n h
    rw [hcs] at hint
    show parseValue (fuel + 1) (n.toString.data ++ rest) = _
    rw [hcs, List.cons_append, parseValue, skipWs_cons hws]
    simp only [if_neg h₁, if_neg h₂, if_neg h₃, if_pos hc, ← List.cons_append, hint]
    rfl
  | str s, fuel + 1, rest, _, _ => by
    have e : (stringify (str s)).data ++ rest = '"' :: (escape s.data ++ '"' :: rest) := by
      show '"' :: (escape s.data ++ ['"']) ++ rest = _
      simp only [List.cons_append, List.nil_append, List.append_assoc]
    rw [e, parseValue, skipWs_cons (rfl : isWs '"' = false)]
    simp only [if_pos, parseChars_escape]
    rfl
  | arr [], _ + 1, _, _, _ => rfl
  | arr (x :: xs), fuel + 1, rest, hlen, _ => by
    obtain ⟨c, cs, hx, hws, hc, -⟩ := stringify_head x
    obtain ⟨T, hT⟩ := stringifyElems_cons x xs
    have hE : (stringifyElems (x :: xs)).data ++ ']' :: rest = c :: (cs ++ T ++ ']' :: rest) := by
      rw [hT, hx, List.cons_append, List.cons_append]
    have hlen' : (stringifyElems (x :: xs)).data.length < fuel := by
      rw [stringify_arr_data] at hlen
      simp only [List.length_cons, List.length_append, List.length_singleton] at hlen
      omega
    rw [stringify_arr_data, List.cons_append, List.append_assoc, parseValue,
      skipWs_cons (rfl : isWs '[' = false)]
    simp only [if_neg (by decide : ('[' : Char) ≠ '"'), if_pos, List.singleton_append, hE,
      skipWs_cons hws, List.head?_cons, Option.some.injEq, if_neg hc]
    rw [← hE, parseElems_stringifyElems (x :: xs) fuel rest (List.cons_ne_nil _ _) hlen']
    rfl
  | obj [], _ + 1, _, _, _ => rfl
  | obj ((k, v) :: kvs), fuel + 1, rest, hlen, _ => by
    obtain ⟨T, hT⟩ := stringifyMembers_cons k v kvs
    have hM :
        (stringifyMembers ((k, v) :: kvs)).data ++ '}' :: rest = '"' :: (T ++ '}' :: rest) := by
      rw [hT, List.cons_append]
    have hlen' : (stringifyMembers ((k, v) :: kvs)).data.length < fuel := by
      rw [stringify_obj_data] at hlen
      simp only [List.length_cons, List.length_append, List.length_singleton] at hlen
      omega
    rw [stringify_obj_data, List.cons_append, List.append_assoc, parseValue,
      skipWs_cons (rfl : isWs '{' = false)]
    simp only [if_neg (by decide : ('{' : Char) ≠ '"'), if_neg (by decide : ('{' : Char) ≠ '['),
      if_pos, List.singleton_append, hM, skipWs_cons (rfl : isWs '"' = false), List.head?_cons,
      Option.some.injEq, if_neg (by decide : ('"' : Char) ≠ '}')]
    rw [← hM, parseMembers_stringifyMembers ((k, v) :: kvs) fuel rest (List.cons_ne_nil _ _) hlen']
    rfl

theorem parseElems_stringifyElems : ∀ (xs : List Json) (fuel : Nat) (rest : List Char),
    xs ≠ [] → (stringifyElems xs).data.length < fuel →
      parseElems fuel ((stringifyElems xs).data ++ ']' :: rest) = some (xs, rest)
  | [], _, _, hne, _ => absurd rfl hne
  | _ :: _, 0, _, _, hlen => absurd hlen (Nat.not_lt_zero _)
  | [x], fuel + 1, rest, _, hlen => by
    have hx := parseValue_stringify x fuel (']' :: rest) (Nat.lt_succ_iff.mp hlen) rfl
    show parseElems (fuel + 1) ((stringify x).data ++ ']' :: rest) = _
    rw [parseElems, hx]
    rfl
  | x :: y :: ys, fuel + 1, rest, _, hlen => by
    rw [stringifyElems_cons_cons_data] at hlen ⊢
    simp only [List.length_append, List.length_cons] at hlen
    have hx := parseValue_stringify x fuel (',' :: ((stringifyElems (y :: ys)).data ++ ']' :: rest))
      (by omega) rfl
    have hys := parseElems_stringifyElems (y :: ys) fuel rest (List.cons_ne_nil _ _) (by omega)
    rw [List.append_assoc, List.cons_append, parseElems, hx]
    simp only [skipWs_cons (rfl : isWs ',' = false), hys]
    rfl

theorem parseMembers_stringifyMembers : ∀ (kvs : List (String × Json)) (fuel : Nat)
    (rest : List Char), kvs ≠ [] → (stringifyMembers kvs).data.length < fuel →
      parseMembers fuel ((stringifyMembers kvs).data ++ '}' :: rest) = some (kvs, rest)
  | [], _, _, hne, _ => absurd rfl hne
  | _ :: _, 0, _, _, hlen => absurd hlen (Nat.not_lt_zero _)
  | [(k, v)], fuel + 1, rest, _, hlen => by
    rw [stringifyMembers_singleton_data] at hlen ⊢
    simp only [List.length_cons, List.length_append] at hlen
    have hv := parseValue_stringify v fuel ('}' :: rest) (by omega) rfl
    simp only [List.cons_append, List.append_assoc]
    rw [parseMembers, skipWs_cons (rfl : isWs '"' = false)]
    simp only [parseChars_escape, skipWs_cons (rfl : isWs ':' = false), hv,
      skipWs_cons (rfl : isWs '}' = false)]
  | (k, v) :: kv :: kvs, fuel + 1, rest, _, hlen => by
    rw [stringifyMembers_cons_cons_data] at hlen ⊢
    simp only [List.length_cons, List.length_append] at hlen
    have hv := parseValue_stringify v fuel
      (',' :: ((stringifyMembers (kv :: kvs)).data ++ '}' :: rest)) (by omega) rfl
    have hkvs := parseMembers_stringifyMembers (kv :: kvs) fuel rest (List.cons_ne_nil _ _)
      (by omega)
    simp only [List.cons_append, List.append_assoc]
    rw [parseMembers, skipWs_cons (rfl : isWs '"' = false)]
    simp only [parseChars_escape, skipWs_cons (rfl : isWs ':' = false), hv,
      skipWs_cons (rfl : isWs ',' = false), hkvs]
    rfl

end

/-- `JSON.parse(JSON.stringify(j))` is `j`, for every JSON value `j`. -/
theorem parse_stringify (j : Json) : parse (stringify j) = some j := by
  have h := parseValue_stringify j (stringify j).length [] (Nat.le_of_eq rfl) rfl
  rw [List.append_nil] at h
  rw [parse, h]
  rfl

end Json

end Veramo
