import Girasol.Foundation.Cursor
import Girasol.Screen.Mint

/-!
# The metadata of a token

The parser of the mutability flag at its offsets, with every access and every
sum that could panic, and what it finds in any serialised metadata.
-/

namespace Girasol

open Foundation

/-! ## The parser at its offsets -/

def readU32At (data : List UInt8) (offset : Nat) : Cursor (Nat × Nat) := do
  let stop ← Cursor.checkedAdd offset 4
  let bytes ← Cursor.getSlice data offset stop
  return (leValue bytes, stop)

def advance (data : List UInt8) (offset length : Nat) : Cursor Nat := do
  let stop ← Cursor.checkedAdd offset length
  if data.length < stop then .error .absent else return stop

def skipStringAt (data : List UInt8) (offset : Nat) : Cursor Nat := do
  let (length, offset) ← readU32At data offset
  advance data offset length

def skipCreatorsAt (data : List UInt8) (offset : Nat) : Cursor Nat := do
  let offset ← Cursor.checkedAdd offset 2
  let creatorsTag ← Cursor.get data offset
  let offset ← Cursor.add offset 1
  if creatorsTag = 0 then return offset
  else if creatorsTag = 1 then
    let (count, offset) ← readU32At data offset
    let creatorsLen ← Cursor.checkedMul count 34
    advance data offset creatorsLen
  else .error .absent

def isMutableAt (data : List UInt8) : Cursor Bool := do
  if (← Cursor.get data 0) ≠ 4 then .error .absent
  else
    let offset ← skipStringAt data 65
    let offset ← skipStringAt data offset
    let offset ← skipStringAt data offset
    let offset ← skipCreatorsAt data offset
    let flag ← Cursor.get data (← Cursor.checkedAdd offset 1)
    return flag != 0

/-! ## Offsets and the bytes behind them -/

/-- Both stop, or both go on, one with an offset and the other with the bytes behind it. -/
inductive Agree (data : List UInt8) : Cursor Nat → Option (List UInt8) → Prop
  | stop : Agree data (.error .absent) none
  | next {offset : Nat} (h : offset ≤ data.length) :
      Agree data (.ok offset) (some (data.drop offset))

section

variable {data : List UInt8}

theorem Agree.bind_eq {x : Cursor Nat} {y : Option (List UInt8)} (h : Agree data x y) {α : Type}
    {f : Nat → Cursor α} {g : List UInt8 → Option α}
    (hfg : ∀ offset ≤ data.length, f offset = Cursor.ofOption (g (data.drop offset))) :
    x >>= f = Cursor.ofOption (y >>= g) := by
  cases h with
  | stop => rfl
  | @next offset hoffset => exact hfg offset hoffset

theorem Agree.bind {x : Cursor Nat} {y : Option (List UInt8)} (h : Agree data x y)
    {f : Nat → Cursor Nat} {g : List UInt8 → Option (List UInt8)}
    (hfg : ∀ offset ≤ data.length, Agree data (f offset) (g (data.drop offset))) :
    Agree data (x >>= f) (y >>= g) := by
  cases h with
  | stop => exact .stop
  | @next offset hoffset => exact hfg offset hoffset

theorem advance_agrees {offset n : Nat} (hoffset : offset ≤ data.length)
    (hdata : data.length < 2 ^ 63) (hn : n < 2 ^ 63) :
    Agree data (advance data offset n) (skipBytes n (data.drop offset)) := by
  rw [advance, Cursor.checkedAdd_ok (by omega), Cursor.ok_bind, skipBytes, List.length_drop,
    List.drop_drop]
  by_cases hbeyond : data.length < offset + n
  · rw [if_pos hbeyond, if_pos (by omega)]
    exact .stop
  · rw [if_neg hbeyond, if_neg (by omega)]
    exact .next (Nat.le_of_not_lt hbeyond)

theorem readU32At_agrees {offset : Nat} (hoffset : offset < 2 ^ 63)
    {f : Nat × Nat → Cursor Nat} {g : Nat × List UInt8 → Option (List UInt8)}
    (hfg : ∀ n < 2 ^ 32, offset + 4 ≤ data.length →
      Agree data (f (n, offset + 4)) (g (n, data.drop (offset + 4)))) :
    Agree data (readU32At data offset >>= f) (readU32 (data.drop offset) >>= g) := by
  rw [readU32At, Cursor.checkedAdd_ok (by omega), Cursor.ok_bind, Cursor.getSlice_eq, readU32,
    List.length_drop]
  by_cases hbeyond : offset + 4 ≤ data.length
  · rw [if_pos hbeyond, if_neg (by omega), List.drop_drop]
    apply hfg _ _ hbeyond
    calc leValue ((data.drop offset).take 4)
        < 256 ^ ((data.drop offset).take 4).length := leValue_lt _
      _ ≤ 256 ^ 4 := Nat.pow_le_pow_right (by norm_num) (List.length_take_le _ _)
  · rw [if_neg hbeyond, if_pos (by omega)]
    exact .stop

end

/-! ## The parser, step by step -/

def skipString (data : List UInt8) : Option (List UInt8) := do
  let (length, rest) ← readU32 data
  skipBytes length rest

def skipCreators (data : List UInt8) : Option (List UInt8) := do
  let creatorsTag ← data[2]?
  if creatorsTag = 0 then pure (data.drop 3)
  else if creatorsTag = 1 then do
    let (count, rest) ← readU32 (data.drop 3)
    skipBytes (count * 34) rest
  else none

def flagBehind (data : List UInt8) : Option Bool := data[1]?.map (· != 0)

theorem parseMetaplexIsMutable_eq (data : List UInt8) :
    parseMetaplexIsMutable data =
      if data.head? ≠ some 4 then none
      else
        skipString (data.drop 65) >>= skipString >>= skipString >>= skipCreators >>= flagBehind := by
  unfold parseMetaplexIsMutable
  refine if_congr Iff.rfl rfl ?_
  simp only [skipString, skipCreators, Option.bind_eq_bind, Option.bind_assoc]
  refine Option.bind_congr fun _ _ => Option.bind_congr fun _ _ => Option.bind_congr fun _ _ => ?_
  refine Option.bind_congr fun _ _ => Option.bind_congr fun _ _ => ?_
  refine Option.bind_congr fun rest _ => Option.bind_congr fun creatorsTag _ => ?_
  split
  · rfl
  · split
    · rw [Option.bind_assoc]
      rfl
    · rfl

section

variable {data : List UInt8} (hdata : data.length < 2 ^ 63)

include hdata

private theorem skipStringAt_agrees {offset : Nat} (hoffset : offset < 2 ^ 63) :
    Agree data (skipStringAt data offset) (skipString (data.drop offset)) :=
  readU32At_agrees hoffset fun n hn hinside => advance_agrees hinside hdata (by omega)

private theorem skipCreatorsAt_agrees {offset : Nat} (hoffset : offset ≤ data.length) :
    Agree data (skipCreatorsAt data offset) (skipCreators (data.drop offset)) := by
  unfold skipCreatorsAt skipCreators
  rw [Cursor.checkedAdd_ok (by omega), Cursor.ok_bind, Cursor.get, List.getElem?_drop]
  cases htag : data[offset + 2]? with
  | none => exact .stop
  | some creatorsTag =>
      obtain ⟨hinside, -⟩ := List.getElem?_eq_some_iff.mp htag
      simp only [Cursor.ofOption, Cursor.ok_bind, Option.bind_eq_bind, Option.bind_some,
        Cursor.add_ok (show offset + 2 + 1 < 2 ^ 64 by omega), List.drop_drop]
      split
      case isTrue => exact .next (by omega)
      case isFalse =>
        split
        case isFalse => exact .stop
        case isTrue =>
          refine readU32At_agrees (by omega) fun n hn hbehind => ?_
          rw [Cursor.checkedMul_ok (by omega), Cursor.ok_bind]
          exact advance_agrees hbehind hdata (by omega)

end

theorem isMutableAt_eq (data : DataSlice) :
    isMutableAt data.bytes = Cursor.ofOption (parseMetaplexIsMutable data.bytes) := by
  obtain ⟨data, hdata⟩ := data
  have hskip (offset : Nat) (hoffset : offset ≤ data.length) :=
    skipStringAt_agrees hdata (show offset < 2 ^ 63 by omega)
  have hagree : Agree data
      (skipStringAt data 65 >>= skipStringAt data >>= skipStringAt data >>= skipCreatorsAt data)
      (skipString (data.drop 65) >>= skipString >>= skipString >>= skipCreators) :=
    (((skipStringAt_agrees hdata (by norm_num)).bind hskip).bind hskip).bind
      fun offset hoffset => skipCreatorsAt_agrees hdata hoffset
  have hflag (offset : Nat) (hoffset : offset ≤ data.length) :
      (do
        let flag ← Cursor.get data (← Cursor.checkedAdd offset 1)
        return flag != 0) = Cursor.ofOption (flagBehind (data.drop offset)) := by
    rw [Cursor.checkedAdd_ok (by omega), Cursor.ok_bind, Cursor.get, flagBehind,
      List.getElem?_drop]
    cases data[offset + 1]? <;> rfl
  rw [parseMetaplexIsMutable_eq, isMutableAt, Cursor.get, ← List.head?_eq_getElem?]
  cases hhead : data.head? with
  | none => rfl
  | some key =>
      by_cases hkey : key = 4
      · subst hkey
        have hsame := hagree.bind_eq hflag
        simpa [Cursor.ofOption, bind_assoc] using hsame
      · simp [Cursor.ofOption, hkey]

/-! ## Serialised metadata -/

structure BorshString where
  bytes : List UInt8
  length_lt : bytes.length < 2 ^ 32

structure Creator where
  address : List UInt8
  verified : Bool
  share : UInt8
  address_length : address.length = 32

structure MetaplexMetadata where
  updateAuthority : List UInt8
  mint : List UInt8
  name : BorshString
  symbol : BorshString
  uri : BorshString
  sellerFeeBasisPoints : UInt16
  creators : Option (List Creator)
  primarySaleHappened : Bool
  isMutable : Bool
  /-- The fields that later versions of the program have added. -/
  later : List UInt8
  updateAuthority_length : updateAuthority.length = 32
  mint_length : mint.length = 32
  creators_lt : ∀ list ∈ creators, list.length < 2 ^ 32

def boolByte (b : Bool) : UInt8 := if b then 1 else 0

def BorshString.serialized (s : BorshString) : List UInt8 := leBytes 4 s.bytes.length ++ s.bytes

def Creator.serialized (creator : Creator) : List UInt8 :=
  creator.address ++ [boolByte creator.verified, creator.share]

def serializedCreators : Option (List Creator) → List UInt8
  | none => [0]
  | some list => 1 :: (leBytes 4 list.length ++ list.flatMap Creator.serialized)

/-- The account of version 1, whose key is 4. -/
def MetaplexMetadata.serialized (metadata : MetaplexMetadata) : List UInt8 :=
  4 :: (metadata.updateAuthority ++ metadata.mint ++
    (metadata.name.serialized ++ (metadata.symbol.serialized ++ (metadata.uri.serialized ++
      (leBytes 2 metadata.sellerFeeBasisPoints.toNat ++ (serializedCreators metadata.creators ++
        (boolByte metadata.primarySaleHappened :: boolByte metadata.isMutable ::
          metadata.later)))))))

theorem readU32_leBytes {n : Nat} (hn : n < 2 ^ 32) (rest : List UInt8) :
    readU32 (leBytes 4 n ++ rest) = some (n, rest) := by
  have hvalue : leValue (leBytes 4 n) = n := by
    rw [leValue_leBytes]
    exact Nat.mod_eq_of_lt hn
  rw [readU32, if_neg (by simp), List.take_left' (length_leBytes 4 n),
    List.drop_left' (length_leBytes 4 n), hvalue]

@[simp] theorem skipBytes_append (bytes rest : List UInt8) :
    skipBytes bytes.length (bytes ++ rest) = some rest := by
  rw [skipBytes, if_neg (by simp), List.drop_left]

@[simp] theorem skipString_serialized (s : BorshString) (rest : List UInt8) :
    skipString (s.serialized ++ rest) = some rest := by
  rw [skipString, BorshString.serialized, List.append_assoc, readU32_leBytes s.length_lt]
  exact skipBytes_append s.bytes rest

private theorem length_flatMap_serialized (list : List Creator) :
    (list.flatMap Creator.serialized).length = list.length * 34 := by
  induction list with
  | nil => rfl
  | cons creator list ih =>
      rw [List.flatMap_cons, List.length_append, ih, Creator.serialized, List.length_append,
        creator.address_length, List.length_cons]
      simp only [List.length_cons, List.length_nil]
      omega

private theorem skipCreators_listed (a b : UInt8) (data : List UInt8) :
    skipCreators (a :: b :: 1 :: data) =
      readU32 data >>= fun (count, rest) => skipBytes (count * 34) rest := rfl

private theorem skipCreators_serialized {creators : Option (List Creator)}
    (hcreators : ∀ list ∈ creators, list.length < 2 ^ 32) (royalty : UInt16) (rest : List UInt8) :
    skipCreators (leBytes 2 royalty.toNat ++ (serializedCreators creators ++ rest)) =
      some rest := by
  obtain ⟨a, b, hroyalty⟩ : ∃ a b, leBytes 2 royalty.toNat = [a, b] := ⟨_, _, rfl⟩
  rw [hroyalty]
  cases creators with
  | none => rfl
  | some list =>
      have hskip := skipBytes_append (list.flatMap Creator.serialized) rest
      rw [length_flatMap_serialized] at hskip
      simp only [serializedCreators, List.cons_append, List.nil_append, List.append_assoc]
      rw [skipCreators_listed, readU32_leBytes (hcreators list rfl)]
      exact hskip

@[simp] theorem MetaplexMetadata.parse (metadata : MetaplexMetadata) :
    parseMetaplexIsMutable metadata.serialized = some metadata.isMutable := by
  have hfront : (4 :: (metadata.updateAuthority ++ metadata.mint)).length = 65 := by
    simp [metadata.updateAuthority_length, metadata.mint_length]
  rw [parseMetaplexIsMutable_eq, if_neg (by simp [serialized]), serialized, ← List.cons_append,
    List.drop_left' hfront, skipString_serialized]
  simp only [Option.bind_eq_bind, Option.bind_some, skipString_serialized,
    skipCreators_serialized metadata.creators_lt]
  cases metadata.isMutable <;> rfl

/--
The flag of every serialised metadata is found, and no byte string makes the
parser panic.
-/
theorem parse_metadata :
    (∀ metadata : MetaplexMetadata,
      parseMetaplexIsMutable metadata.serialized = some metadata.isMutable) ∧
    ∀ data : DataSlice,
      isMutableAt data.bytes = Cursor.ofOption (parseMetaplexIsMutable data.bytes) ∧
        ∀ halt, isMutableAt data.bytes = .error halt → halt = .absent := by
  refine ⟨MetaplexMetadata.parse, fun data => ⟨isMutableAt_eq data, fun halt h => ?_⟩⟩
  rw [isMutableAt_eq] at h
  exact Cursor.absent_of_ofOption h

end Girasol
