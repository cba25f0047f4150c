import Mathlib.Logic.Function.Basic

/-!
This module contains the JSON values that the agent writes as text: the `value` of a message's
metadata entries, the service entries of DID documents and the snap state of
`SnapLocalStorageStore`. `Json.stringify` is `JSON.stringify` on them.

A number is the decimal that `Number::toString` prints for it: a significand with no trailing
zero and a power of ten. What is left out is the rounding of a JavaScript number to a double,
so a decimal with more significant digits than a double keeps, or beyond its range, is a number
here too.
-/

namespace Veramo

namespace Json

/--
A JSON number, as the decimal `Number::toString` prints it: `±significand × 10 ^ exponent` with
no trailing zero in `significand`. Zero is `0 × 10 ^ 0` and has no sign, as `-0` prints `0`.
-/
structure Number where
  negative : Bool
  significand : Nat
  exponent : Int
  normal : significand % 10 ≠ 0 ∨ significand = 0 ∧ exponent = 0 ∧ negative = false
  deriving Repr

namespace Number

/-- The exponent part of exponent notation: `e`, the sign, and the digits of the exponent. -/
def exponentText (e : Int) : List Char :=
  'e' :: (if 0 ≤ e then '+' else '-') :: Nat.toDigits 10 e.natAbs

/--
`Number::toString` of a positive number whose significand has the digits `ds` and whose decimal
point stands `n` digits after their start (ECMA-262, `Number::toString`, steps 6 to 10).
-/
def positiveText (ds : List Char) (n : Int) : List Char :=
  if (ds.length : Int) ≤ n ∧ n ≤ 21 then ds ++ List.replicate (n - ds.length).toNat '0'
  else if 0 < n ∧ n ≤ 21 then ds.take n.toNat ++ '.' :: ds.drop n.toNat
  else if -6 < n ∧ n ≤ 0 then '0' :: '.' :: (List.replicate (-n).toNat '0' ++ ds)
  else
    match ds with
    | [d] => d :: exponentText (n - 1)
    | d :: rest => d :: '.' :: (rest ++ exponentText (n - 1))
    | [] => []

/-- `Number::toString`: `0` for zero, and a `-` before a negative number. -/
def toString (x : Number) : String :=
  if x.significand = 0 then "0"
  else
    ⟨(if x.negative then ['-'] else []) ++ positiveText (Nat.toDigits 10 x.significand)
      (x.exponent + (Nat.toDigits 10 x.significand).length)⟩

example : toString ⟨false, 15, -1, by decide⟩ = "1.5" := by decide
example : toString ⟨true, 1, 21, by decide⟩ = "-1e+21" := by decide
example : toString ⟨false, 15, -8, by decide⟩ = "1.5e-7" := by decide
example : toString ⟨false, 1, -6, by decide⟩ = "0.000001" := by decide

end Number

end Json

/--
A JSON value. An object keeps its members in insertion order, as `JSON.stringify` prints them.
-/
inductive Json where
  | null
  | bool (b : Bool)
  | num (n : Json.Number)
  | str (s : String)
  | arr (xs : List Json)
  | obj (kvs : List (String × Json))
  deriving Repr, Inhabited

namespace Json

/-- How `JSON.stringify` writes one character of a string. -/
def escapeChar (c : Char) : List Char :=
  if c = '"' then ['\\', '"']
  else if c = '\\' then ['\\', '\\']
  else if c = '\n' then ['\\', 'n']
  else if c = '\r' then ['\\', 'r']
  else if c = '\t' then ['\\', 't']
  else if c.toNat = 8 then ['\\', 'b']
  else if c.toNat = 12 then ['\\', 'f']
  else if c.toNat < 32 then
    ['\\', 'u', '0', '0', Nat.digitChar (c.toNat / 16), Nat.digitChar (c.toNat % 16)]
  else [c]

def escape : List Char → List Char
  | [] => []
  | c :: cs => escapeChar c ++ escape cs

/-- A string literal, quoted and escaped. -/
def quote (s : String) : String := ⟨'"' :: escape s.data ++ ['"']⟩

mutual

/-- `JSON.stringify`, without indentation. -/
def stringify : Json → String
  | null => "null"
  | bool b => toString b
  | num n => n.toString
  | str s => quote s
  | arr xs => "[" ++ stringifyElems xs ++ "]"
  | obj kvs => "\x7b" ++ stringifyMembers kvs ++ "\x7d"

def stringifyElems : List Json → String
  | [] => ""
  | [x] => stringify x
  | x :: xs => stringify x ++ "," ++ stringifyElems xs

def stringifyMembers : List (String × Json) → String
  | [] => ""
  | [(k, v)] => quote k ++ ":" ++ stringify v
  | (k, v) :: kvs => quote k ++ ":" ++ stringify v ++ "," ++ stringifyMembers kvs

end

example : stringify (.arr [.obj [("uri", .str "did:x")]]) = "[\x7b\"uri\":\"did:x\"\x7d]" := by
  decide

/-- Strict equality `j === s` of a JSON value with a string. -/
def isStr (s : String) : Json → Bool
  | str t => t == s
  | _ => false

/-- `Array.isArray(j) && j.includes(s)`: `j` is an array holding the string `s`. -/
def includesStr (s : String) : Json → Bool
  | arr xs => xs.any (isStr s)
  | _ => false

@[simp] theorem isStr_str (s t : String) : isStr s (str t) = (t == s) := rfl

@[simp] theorem includesStr_arr (s : String) (xs : List Json) :
    includesStr s (arr xs) = xs.any (isStr s) := rfl

end Json

end Veramo
