import Mathlib.Data.UInt
import Mathlib.Data.List.DropRight
import Mathlib.Data.Int.Basic
import Mathlib.Data.String.Basic
import UpdateService.Lib.KeyedList

/-!
# `StringUtils` and `ResponseHeaderParseUtils`

A `std::string` is the list of its bytes, one character for each. Where the source passes a
`size_t` for an `int`, `npos` arrives as `-1`; no line is so long that another value would change.
-/

namespace UpdateService

namespace StringUtils

def isSpace (c : Char) : Bool := c = ' ' || (9 ≤ c.toNat && c.toNat ≤ 13)

def lTrim (s : List Char) : List Char := s.dropWhile isSpace

def rTrim (s : List Char) : List Char := s.rdropWhile isSpace

def trim (s : List Char) : List Char := rTrim (lTrim s)

/-- `std::string::find` of a character, `-1` for `npos`. -/
def find (c : Char) (s : List Char) : Int :=
  match s.findIdx? (· = c) with
  | some i => i
  | none => -1

/-- `SafeSubString`: the end index is checked as one and then used as a count. -/
def safeSubString (s : List Char) (beginIndex endIndex : Int) (default : List Char) : List Char :=
  if s = [] then default
  else if beginIndex < 0 ∨ s.length < endIndex % 2 ^ 64 ∨ endIndex < beginIndex then default
  else (s.drop beginIndex.toNat).take endIndex.toNat

/-- `GetLastSplitString`: what follows the last of the characters of `splitStr`, nothing if there is none. -/
def getLastSplitString (stringName splitStr : List Char) : List Char :=
  if stringName.any (· ∈ splitStr) then stringName.rtakeWhile (· ∉ splitStr) else []

inductive StrCnvResult
  | success | failed | invalidChar | numberFormatError | spillOver
deriving DecidableEq, Repr

/-- `std::from_chars` in base 10: the number, if there are digits, and the rest. -/
def fromChars (s : List Char) : Option Int × List Char :=
  let digits (s : List Char) : Option Nat × List Char :=
    let ds := s.takeWhile Char.isDigit
    (if ds = [] then none else some (ds.foldl (fun n c => n * 10 + (c.toNat - 48)) 0), s.drop ds.length)
  match s with
  | '-' :: rest => ((digits rest).1.map fun n => -(n : Int), (digits rest).2)
  | s => ((digits s).1.map fun n => (n : Int), (digits s).2)

/-- `StringToNumberInner` to a type with the values from `min` up to but not `sup`: the result and the number,
which only two failures leave as it was. -/
def stringToNumberInner (min sup : Int) (s : List Char) (number : Int) : StrCnvResult × Int :=
  match fromChars (trim s) with
  | (none, _) => (.failed, number)
  | (some n, rest) =>
    if n < min ∨ sup ≤ n then (.spillOver, number)
    else if rest ≠ [] then (.invalidChar, n)
    else if (trim s).length ≠ s.length then (.numberFormatError, n)
    else (.success, n)

/-- `DecStringToNumber` to an `int64_t`. -/
def decStringToNumber : List Char → Int → StrCnvResult × Int := stringToNumberInner (-2 ^ 63) (2 ^ 63)

example : decStringToNumber "-42".toList 0 = (.success, -42) := by decide

/-- What `ReplaceStringAll` makes of a text, for a `subString` that is not empty; `skip` characters of a match are still
to be passed over. -/
def replaceStringAll (subString newString : List Char) (skip : Nat) : List Char → List Char
  | [] => []
  | c :: s =>
    match skip with
    | skip + 1 => replaceStringAll subString newString skip s
    | 0 =>
      if subString <+: c :: s then newString ++ replaceStringAll subString newString (subString.length - 1) s
      else c :: replaceStringAll subString newString 0 s

def findString (subString : List Char) : List Char → Option Nat
  | [] => if subString = [] then some 0 else none
  | c :: s => if subString <+: c :: s then some 0 else (findString subString s).map (· + 1)

/-- `std::string::find` of a text from `pos` on, `none` for `npos`. -/
def findFrom (subString : List Char) (pos : Nat) (s : List Char) : Option Nat :=
  if pos ≤ s.length then (findString subString (s.drop pos)).map (pos + ·) else none

/-- One turn of the loop of `ReplaceStringAll` over `resultString` and `pos`; no position is `npos`, and no bound on the
length of a text is modelled. -/
def replaceTurn (subString newString : List Char) (s : List Char × Nat) : (List Char × Nat) ⊕ List Char :=
  let (resultString, pos) := s
  match findFrom subString pos resultString with
  | some pos =>
    .inl (resultString.take pos ++ newString ++ resultString.drop (pos + subString.length), pos + newString.length)
  | none => .inr resultString

/-- `StringRemove`: the text from `startString` to the `endString` after it, both included. -/
def stringRemove (startString endString s : List Char) : List Char :=
  match findString startString s with
  | none => s
  | some indexStart =>
    match findString endString (s.drop indexStart) with
    | none => s
    | some length => s.take indexStart ++ s.drop (indexStart + length + endString.length)

end StringUtils

namespace ResponseHeaderParseUtils
open StringUtils

/-- The text before the first colon as both lookups take it, not yet trimmed. -/
def keyOf (header : List Char) : List Char := safeSubString header 0 (find ':' header) []

def parseKeyFromHeader (importKey : List Char) : List (List Char) → List Char
  | [] => []
  | header :: headers =>
    let colonPos := find ':' header
    if colonPos ≠ -1 ∧ colonPos ≠ header.length - 1 then
      if keyOf header = [] then parseKeyFromHeader importKey headers
      else if trim (keyOf header) = importKey then
        trim (safeSubString header (colonPos + 1) (header.length - colonPos - 1) [])
      else parseKeyFromHeader importKey headers
    else parseKeyFromHeader importKey headers

/-- One turn of the loop of `ParseKeysFromHeader`. -/
def parseKeys (keys : List (List Char)) (header : List Char)
    (headerImportantInfoMap : KeyedList (Prod.fst : List Char × List Char → List Char)) :
    KeyedList (Prod.fst : List Char × List Char → List Char) :=
  let colonPos := find ':' header
  if colonPos ≠ -1 ∧ colonPos ≠ header.length - 1 then
    if keyOf header = [] then headerImportantInfoMap
    else if trim (keyOf header) ∈ keys then
      headerImportantInfoMap.insert
        (trim (keyOf header), trim (safeSubString header (colonPos + 1) (header.length - colonPos - 1) []))
    else headerImportantInfoMap
  else headerImportantInfoMap

def parseKeysFromHeader (headers keys : List (List Char)) : KeyedList (Prod.fst : List Char × List Char → List Char) :=
  headers.foldl (fun headerImportantInfoMap header => parseKeys keys header headerImportantInfoMap) ∅

def findKeyFromHeader (importKey : List Char) (headers : List (List Char)) : Bool :=
  headers.any fun header => keyOf header ≠ [] && trim (keyOf header) = importKey

end ResponseHeaderParseUtils

end UpdateService
