import Mathlib.Data.List.Basic

/-!
# Text helpers of the standard library

The few string functions of Rust's standard library that the program's
decisions depend on, on lists of characters.
-/

namespace Girasol.Foundation

/-- `char::is_whitespace`: the Unicode property White_Space. -/
def isWhitespace (c : Char) : Bool :=
  let n := c.toNat
  (9 ≤ n && n ≤ 13) || n == 32 || n == 0x85 || n == 0xA0 || n == 0x1680 ||
    (0x2000 ≤ n && n ≤ 0x200A) || n == 0x2028 || n == 0x2029 || n == 0x202F ||
    n == 0x205F || n == 0x3000

def trim (s : String) : String :=
  String.ofList
    (((s.toList.dropWhile isWhitespace).reverse.dropWhile isWhitespace).reverse)

def splitCommas (s : String) : List String :=
  (s.toList.splitOn ',').map String.ofList

def stripPrefix (s pattern : String) : Option String :=
  if pattern.toList.isPrefixOf s.toList then some (String.ofList (s.toList.drop pattern.length))
  else none

@[simp] theorem stripPrefix_eq_some {s pattern rest : String} :
    stripPrefix s pattern = some rest ↔ s = pattern ++ rest := by
  simp only [stripPrefix, List.isPrefixOf_iff_prefix, Option.ite_none_right_eq_some,
    Option.some.injEq]
  constructor
  · rintro ⟨⟨tail, htail⟩, rfl⟩
    rw [← String.toList_inj, String.toList_append, String.toList_ofList, ← htail,
      ← String.length_toList, List.drop_left]
  · rintro rfl
    refine ⟨by simp, ?_⟩
    rw [String.toList_append, ← String.length_toList, List.drop_left, String.ofList_toList]

/-- `str::trim_start_matches`: the pattern goes as often as it stands at the front. -/
def trimStartMatches (s pattern : String) : String :=
  String.ofList (strip s.length s.toList)
where
  strip : Nat → List Char → List Char
    | 0, cs => cs
    | fuel + 1, cs =>
        if pattern.toList.isPrefixOf cs then strip fuel (cs.drop pattern.length) else cs

/-- `str::lines`: the last line may lack its line feed, and then keeps a carriage return. -/
def lines (s : String) : List String :=
  let parts := s.toList.splitOn '\n'
  let ended := parts.dropLast.map fun line =>
    if line.getLast? = some '\r' then line.dropLast else line
  let last := parts.getLast?.toList.filter fun line => !line.isEmpty
  (ended ++ last).map String.ofList

def splitWhitespace (s : String) : List String :=
  ((s.toList.splitOnP isWhitespace).filter fun word => !word.isEmpty).map String.ofList

def splitOnce (s : String) (separator : Char) : Option (String × String) :=
  match s.toList.dropWhile (· != separator) with
  | [] => none
  | _ :: rest =>
      some (String.ofList (s.toList.takeWhile (· != separator)), String.ofList rest)

def toAsciiLowercase (s : String) : String := String.ofList (s.toList.map Char.toLower)

def containsText (s part : String) : Bool :=
  s.toList.tails.any fun tail => part.toList.isPrefixOf tail

def utf8 (s : String) : List UInt8 := s.toByteArray.data.toList

/-- `String::from_utf8`. -/
def ofUtf8 (bytes : List UInt8) : Option String := String.fromUTF8? ⟨bytes.toArray⟩

@[simp]
theorem ofUtf8_utf8 (s : String) : ofUtf8 (utf8 s) = some s := by
  obtain ⟨bytes, hvalid⟩ := s
  exact dif_pos hvalid

theorem utf8_of_ofUtf8 {bytes : List UInt8} {s : String} (h : ofUtf8 bytes = some s) :
    utf8 s = bytes := by
  unfold ofUtf8 String.fromUTF8? at h
  split at h
  · cases h
    rfl
  · cases h

/-- `str::parse` into an unsigned integer below `bound`: an optional plus sign and digits. -/
def parseUnsigned (bound : Nat) (s : String) : Except String Nat :=
  let digits := match s.toList with
    | '+' :: rest => rest
    | cs => cs
  if digits.isEmpty then .error "cannot parse integer from empty string"
  else if digits.all Char.isDigit then
    let n := digits.foldl (fun acc c => acc * 10 + (c.toNat - 48)) 0
    if n < bound then .ok n else .error "number too large to fit in target type"
  else .error "invalid digit found in string"

theorem parseUnsigned_lt {bound n : Nat} {text : String}
    (hok : parseUnsigned bound text = .ok n) : n < bound := by
  simp only [parseUnsigned] at hok
  split_ifs at hok with hempty hdigits hlt
  cases hok
  exact hlt

end Girasol.Foundation
