import Girasol.Foundation.Cursor
import Girasol.Screen.TransferFee

/-!
# The extensions of a Token-2022 mint

The parser of the transfer fee at its offsets, with every access and every sum
that could panic, and what it finds in any list of extensions.
-/

namespace Girasol

open Foundation

/-! ## The loop over offsets -/

structure ExtensionAt where
  extensionType : Nat
  valueStart : Nat
  valueEnd : Nat

/-- The extension at an offset, or `none` where the loop ends. -/
def extensionAt (data : List UInt8) (offset : Nat) : Cursor (Option ExtensionAt) := do
  if data.length < (← Cursor.checkedAdd offset 4) then return none
  else
    let extensionType ← Cursor.slice data offset (← Cursor.add offset 2)
    let length ← Cursor.slice data (← Cursor.add offset 2) (← Cursor.add offset 4)
    let valueStart ← Cursor.checkedAdd offset 4
    let valueEnd ← Cursor.checkedAdd valueStart (leValue length)
    if data.length < valueEnd then .error .absent
    else return some ⟨leValue extensionType, valueStart, valueEnd⟩

def feeAt (data : List UInt8) (e : ExtensionAt) : Cursor Nat := do
  let bpsStart ← Cursor.checkedAdd e.valueStart 106
  let bpsEnd ← Cursor.checkedAdd bpsStart 2
  if e.valueEnd < bpsEnd then .error .absent
  else
    let bps ← Cursor.slice data bpsStart bpsEnd
    return leValue bps

theorem extensionAt_eq {data : List UInt8} (hdata : data.length < 2 ^ 63) {offset : Nat}
    (hoffset : offset ≤ data.length) :
    extensionAt data offset =
      if data.length < offset + 4 then .ok none
      else if data.length < offset + 4 + leValue (bytesAt data (offset + 2) 2) then .error .absent
      else .ok (some ⟨leValue (bytesAt data offset 2), offset + 4,
        offset + 4 + leValue (bytesAt data (offset + 2) 2)⟩) := by
  unfold extensionAt
  rw [Cursor.checkedAdd_ok (by omega)]
  simp only [Cursor.ok_bind]
  split
  case isTrue => rfl
  case isFalse hinside =>
    have hlength : leValue (bytesAt data (offset + 2) 2) < 2 ^ 16 := by
      have hlt := leValue_lt (bytesAt data (offset + 2) 2)
      have htake : (bytesAt data (offset + 2) 2).length ≤ 2 := List.length_take_le _ _
      calc leValue (bytesAt data (offset + 2) 2)
          < 256 ^ (bytesAt data (offset + 2) 2).length := hlt
        _ ≤ 256 ^ 2 := Nat.pow_le_pow_right (by norm_num) htake
    have htype : Cursor.slice data offset (offset + 2) = .ok (bytesAt data offset 2) :=
      Cursor.slice_ok (by omega)
    have hsize : Cursor.slice data (offset + 2) (offset + 4) =
        .ok (bytesAt data (offset + 2) 2) := by
      change Cursor.slice data (offset + 2) (offset + 2 + 2) = _
      exact Cursor.slice_ok (by omega)
    simp only [Cursor.add_ok (show offset + 2 < 2 ^ 64 by omega),
      Cursor.add_ok (show offset + 4 < 2 ^ 64 by omega), Cursor.ok_bind, htype, hsize,
      Cursor.checkedAdd_ok
        (show offset + 4 + leValue (bytesAt data (offset + 2) 2) < 2 ^ 64 by omega)]
    rfl

theorem valueEnd_of_extensionAt {data : List UInt8} {offset : Nat} {e : ExtensionAt}
    (h : extensionAt data offset = .ok (some e)) :
    offset < e.valueEnd ∧ e.valueEnd ≤ data.length := by
  obtain ⟨headEnd, -, h⟩ := bind_eq_ok.mp h
  split at h
  case isTrue => cases h
  case isFalse =>
    obtain ⟨_, -, h⟩ := bind_eq_ok.mp h
    obtain ⟨_, -, h⟩ := bind_eq_ok.mp h
    obtain ⟨_, -, h⟩ := bind_eq_ok.mp h
    obtain ⟨_, -, h⟩ := bind_eq_ok.mp h
    obtain ⟨length, -, h⟩ := bind_eq_ok.mp h
    obtain ⟨valueStart, hstart, h⟩ := bind_eq_ok.mp h
    obtain ⟨valueEnd, hend, h⟩ := bind_eq_ok.mp h
    have hvalueStart := Cursor.eq_of_checkedAdd hstart
    have hvalueEnd := Cursor.eq_of_checkedAdd hend
    split at h
    case isTrue => cases h
    case isFalse =>
      cases h
      simp only
      omega

def feeFrom (data : List UInt8) (offset : Nat) : Cursor Nat :=
  match _h : extensionAt data offset with
  | .error halt => .error halt
  | .ok none => .error .absent
  | .ok (some e) => if e.extensionType = 1 then feeAt data e else feeFrom data e.valueEnd
termination_by data.length - offset
decreasing_by
  have := valueEnd_of_extensionAt _h
  omega

def transferFeeAt (data : List UInt8) : Cursor Nat := do
  if data.length < 166 then .error .absent
  else if (← Cursor.index data 165) ≠ 1 then .error .absent
  else feeFrom data 166

private theorem transferFeeOfExtensions_drop {data : List UInt8} (offset : Nat) :
    transferFeeOfExtensions (data.drop offset) =
      if data.length < offset + 4 then none
      else if data.length < offset + 4 + leValue (bytesAt data (offset + 2) 2) then none
      else if leValue (bytesAt data offset 2) = 1 then
        if leValue (bytesAt data (offset + 2) 2) < 108 then none
        else some (leValue (bytesAt data (offset + 4 + 106) 2))
      else transferFeeOfExtensions
        (data.drop (offset + 4 + leValue (bytesAt data (offset + 2) 2))) := by
  by_cases hshort : data.length < offset + 4
  · rw [if_pos hshort]
    have hlength : (data.drop offset).length < 4 := by
      rw [List.length_drop]
      omega
    match hrest : data.drop offset with
    | [] | [_] | [_, _] | [_, _, _] => rw [transferFeeOfExtensions]; simp
    | _ :: _ :: _ :: _ :: _ =>
        rw [hrest] at hlength
        simp only [List.length_cons] at hlength
        omega
  · have hrest : data.drop offset = data[offset] :: data[offset + 1] :: data[offset + 2] ::
        data[offset + 3] :: data.drop (offset + 4) := by
      rw [List.drop_eq_getElem_cons (by omega), List.drop_eq_getElem_cons (by omega),
        List.drop_eq_getElem_cons (by omega), List.drop_eq_getElem_cons (by omega)]
    have htype : bytesAt data offset 2 = [data[offset], data[offset + 1]] := by
      rw [bytesAt, hrest]
      rfl
    have hlength : bytesAt data (offset + 2) 2 = [data[offset + 2], data[offset + 3]] := by
      rw [bytesAt, List.drop_eq_getElem_cons (by omega), List.drop_eq_getElem_cons (by omega)]
      rfl
    rw [if_neg hshort, hrest, transferFeeOfExtensions, htype, hlength]
    simp only [List.length_drop, List.drop_drop, bytesAt]
    have hcond : (data.length - (offset + 4) < leValue [data[offset + 2], data[offset + 3]]) ↔
        data.length < offset + 4 + leValue [data[offset + 2], data[offset + 3]] := by
      omega
    simp only [hcond]

private theorem feeAt_eq {data : List UInt8} (hdata : data.length < 2 ^ 63) {offset length : Nat}
    (hend : offset + 4 + length ≤ data.length) (extensionType : Nat) :
    feeAt data ⟨extensionType, offset + 4, offset + 4 + length⟩ =
      if length < 108 then .error .absent
      else .ok (leValue (bytesAt data (offset + 4 + 106) 2)) := by
  unfold feeAt
  rw [Cursor.checkedAdd_ok (show offset + 4 + 106 < 2 ^ 64 by omega), Cursor.ok_bind,
    Cursor.checkedAdd_ok (show offset + 4 + 106 + 2 < 2 ^ 64 by omega), Cursor.ok_bind]
  simp only
  by_cases hshort : length < 108
  · rw [if_pos hshort, if_pos (by omega)]
  · rw [if_neg hshort, if_neg (by omega), Cursor.slice_ok (by omega)]
    rfl

private theorem feeFrom_eq {data : List UInt8} (hdata : data.length < 2 ^ 63) {offset : Nat}
    (hoffset : offset ≤ data.length) :
    feeFrom data offset = Cursor.ofOption (transferFeeOfExtensions (data.drop offset)) := by
  fun_induction feeFrom data offset with
  | case1 offset halt h =>
      rw [extensionAt_eq hdata hoffset] at h
      rw [transferFeeOfExtensions_drop]
      split_ifs at h with hshort hbeyond
      cases h
      rw [if_neg hshort, if_pos hbeyond]
      rfl
  | case2 offset h =>
      rw [extensionAt_eq hdata hoffset] at h
      rw [transferFeeOfExtensions_drop]
      split_ifs at h with hshort hbeyond
      · rw [if_pos hshort]
        rfl
      · cases h
  | case3 offset e h htype =>
      rw [extensionAt_eq hdata hoffset] at h
      rw [transferFeeOfExtensions_drop]
      split_ifs at h with hshort hbeyond
      · cases h
      · simp only [Except.ok.injEq, Option.some.injEq] at h
        subst h
        change leValue (bytesAt data offset 2) = 1 at htype
        rw [if_neg hshort, if_neg hbeyond, if_pos htype,
          feeAt_eq hdata (Nat.le_of_not_lt hbeyond)]
        split <;> rfl
  | case4 offset e h htype ih =>
      have hnext := valueEnd_of_extensionAt h
      rw [extensionAt_eq hdata hoffset] at h
      rw [ih hnext.2, transferFeeOfExtensions_drop offset]
      split_ifs at h with hshort hbeyond
      · cases h
      · simp only [Except.ok.injEq, Option.some.injEq] at h
        subst h
        change ¬ leValue (bytesAt data offset 2) = 1 at htype
        rw [if_neg hshort, if_neg hbeyond, if_neg htype]

theorem transferFeeAt_eq (data : DataSlice) :
    transferFeeAt data.bytes = Cursor.ofOption (parseToken2022TransferFeeBps data.bytes) := by
  unfold transferFeeAt parseToken2022TransferFeeBps
  by_cases hshort : data.bytes.length < 166
  · rw [if_pos hshort, if_pos (by simp [hshort])]
    rfl
  · have hindex : Cursor.index data.bytes 165 = .ok (data.bytes.getD 165 0) := by
      rw [Cursor.index, List.getD_eq_getElem?_getD, List.getElem?_eq_getElem (by omega)]
      rfl
    rw [if_neg hshort, hindex, Cursor.ok_bind]
    by_cases htype : data.bytes.getD 165 0 = 1
    · rw [if_neg (not_not.mpr htype), feeFrom_eq data.length_lt (by omega),
        if_neg (by simpa [hshort] using htype)]
    · rw [if_pos htype, if_pos (by simpa [hshort] using htype)]
      rfl

/-! ## Lists of extensions -/

/-- An extension of any type, of which type 0 is unused space. -/
structure TlvExtension where
  extensionType : Nat
  value : List UInt8
  extensionType_lt : extensionType < 2 ^ 16
  length_lt : value.length < 2 ^ 16

def TlvExtension.bytes (e : TlvExtension) : List UInt8 := extensionBytes e.extensionType e.value

/-- The account of a mint, filled up to its extensions. -/
structure MintImage where
  base : List UInt8
  extensions : List TlvExtension
  base_length : base.length = 165

def MintImage.bytes (image : MintImage) : List UInt8 :=
  image.base ++ 1 :: image.extensions.flatMap TlvExtension.bytes

def isTransferFeeConfig (e : TlvExtension) : Bool := e.extensionType == 1

/-- The basis points of the newer of the two records. -/
def newerBasisPoints (value : List UInt8) : Nat := leValue (bytesAt value 106 2)

private theorem newerBasisPoints_append {value : List UInt8} (hvalue : 108 ≤ value.length)
    (rest : List UInt8) : leValue (bytesAt (value ++ rest) 106 2) = newerBasisPoints value := by
  rw [newerBasisPoints, bytesAt, bytesAt, List.drop_append_of_le_length (by omega),
    List.take_append_of_le_length (by rw [List.length_drop]; omega)]

private theorem transferFeeOfExtensions_flatMap (es : List TlvExtension) :
    transferFeeOfExtensions (es.flatMap TlvExtension.bytes) =
      (es.find? isTransferFeeConfig).bind fun e =>
        if e.value.length < 108 then none else some (newerBasisPoints e.value) := by
  induction es with
  | nil =>
      rw [List.flatMap_nil, transferFeeOfExtensions]
      · rfl
      · simp
  | cons e es ih =>
      rw [List.flatMap_cons, TlvExtension.bytes,
        transferFeeOfExtensions_append e.extensionType_lt e.length_lt]
      by_cases htype : e.extensionType = 1
      · have hfirst : isTransferFeeConfig e = true := beq_iff_eq.mpr htype
        rw [if_pos htype, List.find?_cons_of_pos hfirst, Option.bind_some]
        split
        case isTrue => rfl
        case isFalse hlong => rw [newerBasisPoints_append (Nat.le_of_not_lt hlong)]
      · have hother : ¬ isTransferFeeConfig e = true := fun h => htype (beq_iff_eq.mp h)
        rw [if_neg htype, List.find?_cons_of_neg hother, ih]

theorem MintImage.parse (image : MintImage) :
    parseToken2022TransferFeeBps image.bytes =
      transferFeeOfExtensions (image.extensions.flatMap TlvExtension.bytes) := by
  have htype : image.bytes.getD 165 0 = 1 := by
    rw [MintImage.bytes, List.getD_eq_getElem?_getD,
      List.getElem?_append_right (Nat.le_of_eq image.base_length), image.base_length]
    rfl
  have hdrop : image.bytes.drop 166 = image.extensions.flatMap TlvExtension.bytes := by
    rw [MintImage.bytes, ← List.singleton_append, ← List.append_assoc]
    exact List.drop_left' (by rw [List.length_append, image.base_length]; rfl)
  have hlength : ¬ image.bytes.length < 166 := by
    rw [MintImage.bytes, List.length_append, image.base_length, List.length_cons]
    omega
  simp only [parseToken2022TransferFeeBps, htype, hdrop, hlength]
  rfl

/--
The first transfer fee extension of a mint gives the newer fee if its value is
long enough, a mint without one gives nothing, and no byte string makes the
parser panic.
-/
theorem parse_extensions :
    (∀ (image : MintImage) (e : TlvExtension),
      image.extensions.find? isTransferFeeConfig = some e → 108 ≤ e.value.length →
        parseToken2022TransferFeeBps image.bytes = some (newerBasisPoints e.value)) ∧
    (∀ image : MintImage, image.extensions.find? isTransferFeeConfig = none →
      parseToken2022TransferFeeBps image.bytes = none) ∧
    ∀ data : DataSlice,
      transferFeeAt data.bytes = Cursor.ofOption (parseToken2022TransferFeeBps data.bytes) ∧
        ∀ halt, transferFeeAt data.bytes = .error halt → halt = .absent := by
  refine ⟨?_, ?_, fun data => ⟨transferFeeAt_eq data, fun halt h => ?_⟩⟩
  · intro image e hfirst hlong
    rw [image.parse, transferFeeOfExtensions_flatMap, hfirst, Option.bind_some,
      if_neg (Nat.not_lt.mpr hlong)]
  · intro image hnone
    rw [image.parse, transferFeeOfExtensions_flatMap, hnone, Option.bind_none]
  · rw [transferFeeAt_eq] at h
    exact Cursor.absent_of_ofOption h

def chargingConfig : TlvExtension :=
  ⟨1, List.replicate 106 0 ++ leBytes 2 300, by decide, by decide⟩

def chargingMint : MintImage where
  base := List.replicate 165 0
  extensions := [⟨18, List.replicate 64 7, by decide, by decide⟩, chargingConfig]
  base_length := List.length_replicate

theorem parse_extensions_chargingMint :
    parseToken2022TransferFeeBps chargingMint.bytes = some 300 :=
  (parse_extensions.1 chargingMint chargingConfig rfl (by decide +kernel)).trans
    (by decide +kernel)

end Girasol
