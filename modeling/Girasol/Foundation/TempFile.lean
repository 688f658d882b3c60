import Girasol.Foundation.SavedState
import Mathlib.Logic.Function.Basic

/-!
# Saves through a temporary file

A save creates the temporary file, writes what it serialised in pieces and
renames it over the saved file.  All tasks use one temporary name, so two saves
under a read lock can write to the same file, and a rename can take away the
file that another save still writes.
-/

namespace Girasol.Foundation

variable {σ τ ω β : Type*}

/-! ## Writing at an offset -/

def overwrite (hole : β) (content : List β) (offset : Nat) (piece : List β) : List β :=
  content.take offset ++ List.replicate (offset - content.length) hole ++ piece ++
    content.drop (offset + piece.length)

/-- Everything up to the offset is as in `whole`, and what follows will be written over. -/
structure WrittenUpTo (whole content : List β) (offset : Nat) : Prop where
  length_le : content.length ≤ whole.length
  offset_le : offset ≤ content.length
  agree : ∀ k < offset, content[k]? = whole[k]?

@[simp] theorem length_overwrite (hole : β) (content : List β) (offset : Nat) (piece : List β) :
    (overwrite hole content offset piece).length =
      max content.length (offset + piece.length) := by
  simp only [overwrite, List.length_append, List.length_take, List.length_replicate,
    List.length_drop]
  omega

theorem getElem?_overwrite_of_lt {hole : β} {content : List β} {offset k : Nat}
    (piece : List β) (hk : k < offset) (hlen : k < content.length) :
    (overwrite hole content offset piece)[k]? = content[k]? := by
  have htake : k < (content.take offset).length := by
    rw [List.length_take]
    omega
  rw [overwrite, List.append_assoc, List.append_assoc, List.getElem?_append_left htake,
    List.getElem?_take_of_lt hk]

theorem getElem?_overwrite_piece {hole : β} {content : List β} {offset k : Nat}
    {piece : List β} (hk : offset ≤ k) (hlt : k < offset + piece.length) :
    (overwrite hole content offset piece)[k]? = piece[k - offset]? := by
  have hlen : (content.take offset ++
      List.replicate (offset - content.length) hole).length = offset := by
    rw [List.length_append, List.length_take, List.length_replicate]
    omega
  rw [overwrite, List.append_assoc (_ ++ _), List.getElem?_append_right (by omega), hlen,
    List.getElem?_append_left (by omega)]

theorem getElem?_overwrite_of_ge {hole : β} {content : List β} {offset k : Nat}
    {piece : List β} (hk : offset + piece.length ≤ k) :
    (overwrite hole content offset piece)[k]? = content[k]? := by
  have hlen : (content.take offset ++ List.replicate (offset - content.length) hole ++
      piece).length = offset + piece.length := by
    rw [List.length_append, List.length_append, List.length_take, List.length_replicate]
    omega
  rw [overwrite, List.getElem?_append_right (by omega), hlen, List.getElem?_drop]
  congr 1
  omega

theorem WrittenUpTo.empty (whole : List β) : WrittenUpTo whole [] 0 :=
  ⟨Nat.zero_le _, Nat.le_refl 0, fun _ hk => absurd hk (Nat.not_lt_zero _)⟩

theorem WrittenUpTo.eq_of_length {whole content : List β}
    (h : WrittenUpTo whole content whole.length) : content = whole := by
  have hlen : content.length = whole.length := Nat.le_antisymm h.length_le h.offset_le
  refine List.ext_getElem? fun k => ?_
  by_cases hk : k < whole.length
  · exact h.agree k hk
  · rw [List.getElem?_eq_none (by omega), List.getElem?_eq_none (by omega)]

theorem WrittenUpTo.overwrite {whole content : List β} {offset : Nat} (hole : β)
    (h : WrittenUpTo whole content offset) {other n : Nat} (hn : other + n ≤ whole.length) :
    WrittenUpTo whole (overwrite hole content other ((whole.drop other).take n)) offset := by
  obtain ⟨hlen, hoff, hagree⟩ := h
  have hpiece : ((whole.drop other).take n).length = n := by
    rw [List.length_take, List.length_drop]
    omega
  refine ⟨?_, ?_, fun k hk => ?_⟩
  · rw [length_overwrite, hpiece]
    omega
  · rw [length_overwrite]
    omega
  · by_cases hbefore : k < other
    · rw [getElem?_overwrite_of_lt _ hbefore (by omega), hagree k hk]
    · by_cases hin : k < other + n
      · rw [getElem?_overwrite_piece (by omega) (by omega), List.getElem?_take_of_lt (by omega),
          List.getElem?_drop]
        congr 1
        omega
      · rw [getElem?_overwrite_of_ge (by omega), hagree k hk]

theorem WrittenUpTo.advance {whole content : List β} {offset : Nat} (hole : β)
    (h : WrittenUpTo whole content offset) {n : Nat} (hn : offset + n ≤ whole.length) :
    WrittenUpTo whole (Foundation.overwrite hole content offset ((whole.drop offset).take n))
      (offset + n) := by
  obtain ⟨hlen, hoff, hagree⟩ := h
  have hpiece : ((whole.drop offset).take n).length = n := by
    rw [List.length_take, List.length_drop]
    omega
  refine ⟨?_, ?_, fun k hk => ?_⟩
  · rw [length_overwrite, hpiece]
    omega
  · rw [length_overwrite, hpiece]
    omega
  · by_cases hbefore : k < offset
    · rw [getElem?_overwrite_of_lt _ hbefore (by omega), hagree k hbefore]
    · rw [getElem?_overwrite_piece (by omega) (by omega), List.getElem?_take_of_lt (by omega),
        List.getElem?_drop]
      congr 1
      omega

theorem WrittenUpTo.whole (whole : List β) : WrittenUpTo whole whole whole.length :=
  ⟨Nat.le_refl _, Nat.le_refl _, fun _ _ => rfl⟩

theorem overwrite_whole (hole : β) {whole : List β} {other n : Nat}
    (hn : other + n ≤ whole.length) :
    overwrite hole whole other ((whole.drop other).take n) = whole :=
  ((WrittenUpTo.whole whole).overwrite hole hn).eq_of_length

/-! ## The disk and the tasks -/

/-- Where the file of an open handle is: renames move files under their handles. -/
inductive FilePlace where
  | temporary
  | saved
  | replaced
  deriving DecidableEq

def FilePlace.renamed : FilePlace → FilePlace
  | .temporary => .saved
  | .saved | .replaced => .replaced

structure Handle where
  place : FilePlace
  offset : Nat
  deriving DecidableEq

/-- `memory.file` is what the last finished save had serialised, which may differ from the disk. -/
structure DiskState (σ β : Type*) where
  memory : SavedState σ
  temporary : Option (List β)
  saved : Option (List β)
  handles : Nat → Option Handle

inductive DiskEvent (ω : Type*) where
  | spawn (op : ω)
  | section (task : Nat)
  | create (task : Nat)
  | write (task n : Nat)
  | rename (task : Nat)
  | fail (task : Nat)
  | crash

structure FileFormat (σ β : Type*) where
  encode : σ → List β
  load : Option (List β) → σ
  hole : β

namespace SavedState

def serialized? (s : SavedState σ) (i : Nat) : Option σ :=
  s.tasks[i]?.bind SavingTask.serialized?

end SavedState

namespace DiskState

/-- The process loads the saved file; a temporary file that a crash left stays where it is. -/
def start (format : FileFormat σ β) (temporary saved : Option (List β)) : DiskState σ β :=
  ⟨.start (format.load saved), temporary, saved, fun _ => none⟩

def setHandle (s : DiskState σ β) (i : Nat) (handle : Option Handle) : DiskState σ β :=
  { s with handles := Function.update s.handles i handle }

def put (s : DiskState σ β) (hole : β) (handle : Handle) (piece : List β) : DiskState σ β :=
  match handle.place with
  | .temporary =>
      { s with temporary := s.temporary.map (overwrite hole · handle.offset piece) }
  | .saved => { s with saved := s.saved.map (overwrite hole · handle.offset piece) }
  | .replaced => s

def renameOver (s : DiskState σ β) : DiskState σ β :=
  match s.temporary with
  | none => s
  | some content =>
      { s with
        temporary := none
        saved := some content
        handles := fun i => (s.handles i).map fun h => { h with place := h.place.renamed } }

def giveUp (s : SavedState σ) (i : Nat) : SavedState σ :=
  match s.tasks[i]? with
  | some (.reading _ rest) | some (.writing _ rest) => s.setTask i (.free rest)
  | _ => s

def step (format : FileFormat σ β) (program : ω → Program σ) (s : DiskState σ β) :
    DiskEvent ω → Option (DiskState σ β)
  | .spawn op =>
      (s.memory.step program (.spawn op)).map fun memory => { s with memory := memory }
  | .section i =>
      match s.memory.serialized? i with
      | some _ => none
      | none => (s.memory.advance i).map fun memory => { s with memory := memory }
  | .create i =>
      match s.memory.serialized? i, s.handles i with
      | some _, none =>
          some ({ s with temporary := some [] }.setHandle i (some ⟨.temporary, 0⟩))
      | _, _ => none
  | .write i n =>
      match s.memory.serialized? i, s.handles i with
      | some serialized, some h =>
          if 0 < n ∧ h.offset + n ≤ (format.encode serialized).length then
            some ((s.put format.hole h
                (((format.encode serialized).drop h.offset).take n)).setHandle i
              (some { h with offset := h.offset + n }))
          else none
      | _, _ => none
  | .rename i =>
      match s.memory.serialized? i, s.handles i with
      | some serialized, some h =>
          if h.offset = (format.encode serialized).length then
            (s.memory.advance i).map fun memory =>
              { s.renameOver.setHandle i none with memory := memory }
          else none
      | _, _ => none
  | .fail i =>
      match s.memory.serialized? i with
      | some _ => some ({ s with memory := giveUp s.memory i }.setHandle i none)
      | none => none
  | .crash => some (start format s.temporary s.saved)

end DiskState

/-! ## What a section does to the memory -/

namespace SavedState

@[simp] theorem serialized?_setTask_ne {s : SavedState σ} {i j : Nat} (task : SavingTask σ)
    (hne : j ≠ i) : (s.setTask i task).serialized? j = s.serialized? j := by
  simp only [serialized?, setTask, List.getElem?_set_ne (Ne.symm hne)]

@[simp] theorem serialized?_setTask_free {s : SavedState σ} {i : Nat} (rest : Program σ) :
    (s.setTask i (.free rest)).serialized? i = none := by
  simp only [serialized?, setTask, List.getElem?_set_self']
  cases s.tasks[i]? with
  | none => rfl
  | some task => rfl

theorem exists_of_serialized? {s : SavedState σ} {i : Nat} {serialized : σ}
    (h : s.serialized? i = some serialized) :
    ∃ task, s.tasks[i]? = some task ∧ task.serialized? = some serialized :=
  Option.bind_eq_some_iff.mp h

theorem serialized?_of_unlocked {s : SavedState σ} (hfree : s.unlocked = true) (i : Nat) :
    s.serialized? i = none := by
  rw [serialized?]
  cases htask : s.tasks[i]? with
  | none => rfl
  | some task =>
      have hnone : task.holdsLock = false := by
        simpa using List.all_eq_true.mp hfree task (List.mem_of_getElem? htask)
      exact SavingTask.serialized?_eq_none hnone

theorem serialized?_of_allDone {s : SavedState σ} (hdone : s.allDone = true) (i : Nat) :
    s.serialized? i = none := by
  refine serialized?_of_unlocked (List.all_eq_true.mpr fun task htask => ?_) i
  have htaskDone := List.all_eq_true.mp hdone task htask
  cases task with
  | free rest => rfl
  | _ => cases htaskDone

theorem Inv.serialized?_eq {view : σ → τ} {s : SavedState σ} (hs : s.Inv view) {i : Nat}
    {serialized : σ} (h : s.serialized? i = some serialized) : serialized = s.shared := by
  obtain ⟨task, htask, hser⟩ := exists_of_serialized? h
  exact hs.current task (List.mem_of_getElem? htask) serialized hser

theorem advance_section {s s' : SavedState σ} {i : Nat} (hfree : s.serialized? i = none)
    (hstep : s.advance i = some s') :
    s'.file = s.file ∧ (s'.shared = s.shared ∨ s.unlocked = true) ∧
      ∀ j ≠ i, s'.serialized? j = s.serialized? j := by
  unfold SavedState.advance at hstep
  split at hstep
  case h_1 => cases hstep
  case h_2 serialized rest hi => simp [serialized?, hi, SavingTask.serialized?] at hfree
  case h_3 serialized rest hi => simp [serialized?, hi, SavingTask.serialized?] at hfree
  case h_4 => cases hstep
  case h_5 next hi =>
    split at hstep <;> cases hstep
    exact ⟨rfl, .inl rfl, fun j hj => serialized?_setTask_ne _ hj⟩
  case h_6 f next hi =>
    split at hstep <;> cases hstep
    case isTrue hunlocked => exact ⟨rfl, .inr hunlocked, fun j hj => serialized?_setTask_ne _ hj⟩
  case h_7 f next hi =>
    split at hstep <;> cases hstep
    case isTrue hunlocked => exact ⟨rfl, .inr hunlocked, fun j hj => serialized?_setTask_ne _ hj⟩
  case h_8 next hi =>
    split at hstep <;> cases hstep
    exact ⟨rfl, .inl rfl, fun j hj => serialized?_setTask_ne _ hj⟩

theorem advance_save {s s' : SavedState σ} {i : Nat} {serialized : σ}
    (hsaving : s.serialized? i = some serialized) (hstep : s.advance i = some s') :
    s'.file = serialized ∧ s'.shared = s.shared ∧ s'.serialized? i = none ∧
      ∀ j ≠ i, s'.serialized? j = s.serialized? j := by
  obtain ⟨task, htask, hser⟩ := exists_of_serialized? hsaving
  unfold SavedState.advance at hstep
  rw [htask] at hstep
  cases task with
  | free rest => cases hser
  | reading value rest =>
      cases hser
      cases hstep
      exact ⟨rfl, rfl, serialized?_setTask_free rest, fun j hj => serialized?_setTask_ne _ hj⟩
  | writing value rest =>
      cases hser
      cases hstep
      exact ⟨rfl, rfl, serialized?_setTask_free rest, fun j hj => serialized?_setTask_ne _ hj⟩

theorem serialized?_spawn {s : SavedState σ} {program : Program σ} {i : Nat} {serialized : σ}
    (h : s.serialized? i = some serialized) :
    SavedState.serialized? { s with tasks := s.tasks ++ [.free program] } i =
      some serialized := by
  obtain ⟨task, htask, hser⟩ := exists_of_serialized? h
  have hlt : i < s.tasks.length := (List.getElem?_eq_some_iff.mp htask).1
  rw [serialized?, List.getElem?_append_left hlt]
  exact h

end SavedState

/-! ## Saves that overlap -/

def DiskEvent.faultless : DiskEvent ω → Prop
  | .fail _ | .crash => False
  | _ => True

instance : DecidablePred (DiskEvent.faultless : DiskEvent ω → Prop)
  | .fail _ | .crash => isFalse id
  | .spawn _ | .section _ | .create _ | .write _ _ | .rename _ => isTrue trivial

namespace DiskState

variable {format : FileFormat σ β} {program : ω → Program σ} {view : σ → τ}

def Stands (format : FileFormat σ β) (base : Option (List β)) (s : DiskState σ β) : Prop :=
  s.saved = some (format.encode s.memory.file) ∨
    s.saved = base ∧ s.memory.file = format.load base

def Completes (whole : List β) (place : FilePlace) (s : DiskState σ β) (content : List β) :
    Prop :=
  content = whole ∨
    ∃ i offset, s.handles i = some ⟨place, offset⟩ ∧ WrittenUpTo whole content offset

/--
While saves overlap they all write the same bytes; each of the two files is
whole or has a writer that has written all of it up to its offset.
-/
structure Overlap (format : FileFormat σ β) (base : Option (List β)) (s : DiskState σ β) :
    Prop where
  holder : ∀ i h, s.handles i = some h → (s.memory.serialized? i).isSome
  present : ∀ i h, s.handles i = some h → h.place = .temporary → s.temporary ≠ none
  temporary : ∀ i h content, s.handles i = some h → s.temporary = some content →
    ∃ j offset, s.handles j = some ⟨.temporary, offset⟩ ∧
      WrittenUpTo (format.encode s.memory.shared) content offset
  moved : ∀ i h, s.handles i = some h → h.place ≠ .temporary →
    s.memory.file = s.memory.shared
  saved : (∀ i h, s.handles i = some h → h.place ≠ .saved) ∧ s.Stands format base ∨
    s.memory.file = s.memory.shared ∧ ∃ content, s.saved = some content ∧
      Completes (format.encode s.memory.shared) .saved s content

theorem overlap_start (format : FileFormat σ β) (temporary saved : Option (List β)) :
    Overlap format saved (start format temporary saved) where
  holder := fun _ _ h => nomatch h
  present := fun _ _ h => nomatch h
  temporary := fun _ _ _ h => nomatch h
  moved := fun _ _ h => nomatch h
  saved := .inl ⟨fun _ _ h => (nomatch h), .inr ⟨rfl, rfl⟩⟩

theorem Overlap.no_handle {base : Option (List β)} {s : DiskState σ β}
    (hs : s.Overlap format base) {i : Nat} (hfree : s.memory.serialized? i = none) :
    s.handles i = none := by
  cases hhandle : s.handles i with
  | none => rfl
  | some h =>
      have hsome := hs.holder i h hhandle
      rw [hfree] at hsome
      cases hsome

theorem Overlap.stands {base : Option (List β)} {s : DiskState σ β}
    (hs : s.Overlap format base) (hnone : ∀ i, s.handles i = none) : s.Stands format base := by
  rcases hs.saved with ⟨_, hstands⟩ | ⟨hfile, content, hsaved, hwhole⟩
  · exact hstands
  · rcases hwhole with rfl | ⟨i, offset, hhandle, _⟩
    · exact .inl (by rw [hsaved, hfile])
    · rw [hnone i] at hhandle
      cases hhandle

theorem Overlap.memory {base : Option (List β)} {s : DiskState σ β}
    (hs : s.Overlap format base) {memory' : SavedState σ} (hfile : memory'.file = s.memory.file)
    (hshared : memory'.shared = s.memory.shared ∨ s.memory.unlocked = true)
    (hkeep : ∀ i h, s.handles i = some h →
      (s.memory.serialized? i).isSome → (memory'.serialized? i).isSome) :
    Overlap format base { s with memory := memory' } := by
  rcases hshared with hshared | hfree
  · refine ⟨fun i h hh => hkeep i h hh (hs.holder i h hh), hs.present, ?_, ?_, ?_⟩
    · simpa only [hshared] using hs.temporary
    · simpa only [hshared, hfile] using hs.moved
    · simpa only [hshared, hfile, Stands, Completes] using hs.saved
  · have hnone : ∀ i, s.handles i = none := fun i =>
      hs.no_handle (SavedState.serialized?_of_unlocked hfree i)
    have hstands := hs.stands hnone
    refine ⟨fun i h hh => ?_, hs.present, fun i h _ hh => ?_, fun i h hh => ?_, .inl ⟨?_, ?_⟩⟩
    · exact absurd ((hnone i).symm.trans hh) (by simp)
    · exact absurd ((hnone i).symm.trans hh) (by simp)
    · exact absurd ((hnone i).symm.trans hh) (by simp)
    · exact fun i h hh => absurd ((hnone i).symm.trans hh) (by simp)
    · simpa only [Stands, hfile] using hstands

theorem Overlap.create {base : Option (List β)} {s : DiskState σ β}
    (hs : s.Overlap format base) {i : Nat} (hsaving : (s.memory.serialized? i).isSome)
    (hnone : s.handles i = none) :
    Overlap format base ({ s with temporary := some [] }.setHandle i (some ⟨.temporary, 0⟩)) := by
  have hcases : ∀ j h, Function.update s.handles i (some ⟨.temporary, 0⟩) j = some h →
      j = i ∧ h = ⟨.temporary, 0⟩ ∨ s.handles j = some h := by
    intro j h hh
    rw [Function.update_apply] at hh
    split at hh
    case isTrue heq => exact .inl ⟨heq, (Option.some.inj hh).symm⟩
    case isFalse => exact .inr hh
  have hkeep : ∀ j h, s.handles j = some h →
      Function.update s.handles i (some ⟨.temporary, 0⟩) j = some h := by
    intro j h hh
    have hne : j ≠ i := by
      rintro rfl
      rw [hnone] at hh
      cases hh
    rw [Function.update_of_ne hne, hh]
  refine ⟨fun j h hh => ?_, fun j h _ _ => by simp [setHandle], fun j h content _ hcontent => ?_,
    fun j h hh hplace => ?_, ?_⟩
  · rcases hcases j h hh with ⟨rfl, rfl⟩ | hold
    · exact hsaving
    · exact hs.holder j h hold
  · cases hcontent
    exact ⟨i, 0, Function.update_self i _ s.handles, .empty _⟩
  · rcases hcases j h hh with ⟨rfl, rfl⟩ | hold
    · exact absurd rfl hplace
    · exact hs.moved j h hold hplace
  · rcases hs.saved with ⟨hplaces, hstands⟩ | ⟨hfile, content, hsaved, hwhole⟩
    · refine .inl ⟨fun j h hh => ?_, hstands⟩
      rcases hcases j h hh with ⟨rfl, rfl⟩ | hold
      · exact fun heq => nomatch heq
      · exact hplaces j h hold
    · refine .inr ⟨hfile, content, hsaved, hwhole.imp_right ?_⟩
      rintro ⟨j, offset, hhandle, hwritten⟩
      exact ⟨j, offset, hkeep j _ hhandle, hwritten⟩

theorem completes_put {hole : β} {whole content : List β} {place other : FilePlace}
    {s s' : DiskState σ β} {i offset n : Nat} (hn : offset + n ≤ whole.length)
    (hi : s.handles i = some ⟨other, offset⟩)
    (hself : s'.handles i = some ⟨other, offset + n⟩)
    (hkeep : ∀ j ≠ i, s'.handles j = s.handles j)
    {j offset' : Nat} (hj : s.handles j = some ⟨place, offset'⟩)
    (hwritten : WrittenUpTo whole content offset') :
    ∃ k offset'', s'.handles k = some ⟨place, offset''⟩ ∧
      WrittenUpTo whole
        (overwrite hole content offset ((whole.drop offset).take n)) offset'' := by
  by_cases hij : j = i
  · subst hij
    rw [hi] at hj
    cases hj
    exact ⟨j, offset + n, hself, hwritten.advance hole hn⟩
  · exact ⟨j, offset', (hkeep j hij).trans hj, hwritten.overwrite hole hn⟩

theorem Overlap.write {base : Option (List β)} {s : DiskState σ β}
    (hs : s.Overlap format base) {i n : Nat} {h : Handle} (hhandle : s.handles i = some h)
    (hn : h.offset + n ≤ (format.encode s.memory.shared).length) :
    Overlap format base
      ((s.put format.hole h
          (((format.encode s.memory.shared).drop h.offset).take n)).setHandle i
        (some { h with offset := h.offset + n })) := by
  obtain ⟨place, offset⟩ := h
  have hcases : ∀ j h', Function.update s.handles i (some ⟨place, offset + n⟩) j = some h' →
      ∃ h₀, s.handles j = some h₀ ∧ h₀.place = h'.place := by
    intro j h' hh
    rw [Function.update_apply] at hh
    split at hh
    case isTrue heq =>
      cases hh
      exact ⟨⟨place, offset⟩, heq ▸ hhandle, rfl⟩
    case isFalse => exact ⟨h', hh, rfl⟩
  have hself : Function.update s.handles i (some ⟨place, offset + n⟩) i =
      some ⟨place, offset + n⟩ := Function.update_self i _ s.handles
  have hothers : ∀ j ≠ i, Function.update s.handles i (some ⟨place, offset + n⟩) j =
      s.handles j := fun j hj => Function.update_of_ne hj _ s.handles
  have hsame : ∀ other ≠ place, ∀ j offset', s.handles j = some ⟨other, offset'⟩ →
      Function.update s.handles i (some ⟨place, offset + n⟩) j = some ⟨other, offset'⟩ := by
    intro other hne j offset' hj
    refine (hothers j ?_).trans hj
    rintro rfl
    rw [hhandle] at hj
    cases hj
    exact hne rfl
  have hholder : ∀ j h', Function.update s.handles i (some ⟨place, offset + n⟩) j = some h' →
      (s.memory.serialized? j).isSome := by
    intro j h' hh
    obtain ⟨h₀, hold, _⟩ := hcases j h' hh
    exact hs.holder j h₀ hold
  have hmoved : ∀ j h', Function.update s.handles i (some ⟨place, offset + n⟩) j = some h' →
      h'.place ≠ .temporary → s.memory.file = s.memory.shared := by
    intro j h' hh hplace
    obtain ⟨h₀, hold, heq⟩ := hcases j h' hh
    exact hs.moved j h₀ hold (heq ▸ hplace)
  have hsaved : place ≠ .saved →
      (∀ j h', Function.update s.handles i (some ⟨place, offset + n⟩) j = some h' →
        h'.place ≠ .saved) ∧ s.Stands format base ∨
      s.memory.file = s.memory.shared ∧ ∃ content, s.saved = some content ∧
        (content = format.encode s.memory.shared ∨
          ∃ j offset', Function.update s.handles i (some ⟨place, offset + n⟩) j =
            some ⟨.saved, offset'⟩ ∧
            WrittenUpTo (format.encode s.memory.shared) content offset') := by
    intro hne
    rcases hs.saved with ⟨hplaces, hstands⟩ | ⟨hfile, content, hcontent, hwhole⟩
    · refine .inl ⟨fun j h' hh => ?_, hstands⟩
      obtain ⟨h₀, hold, heq⟩ := hcases j h' hh
      exact heq ▸ hplaces j h₀ hold
    · refine .inr ⟨hfile, content, hcontent, hwhole.imp_right ?_⟩
      rintro ⟨j, offset', hj, hwritten⟩
      exact ⟨j, offset', hsame .saved (Ne.symm hne) j offset' hj, hwritten⟩
  have htemporary : place ≠ .temporary → ∀ j h' content,
      Function.update s.handles i (some ⟨place, offset + n⟩) j = some h' →
      s.temporary = some content →
      ∃ k offset', Function.update s.handles i (some ⟨place, offset + n⟩) k =
        some ⟨.temporary, offset'⟩ ∧
        WrittenUpTo (format.encode s.memory.shared) content offset' := by
    intro hne j h' content hh hcontent
    obtain ⟨h₀, hold, _⟩ := hcases j h' hh
    obtain ⟨k, offset', hk, hwritten⟩ := hs.temporary j h₀ content hold hcontent
    exact ⟨k, offset', hsame .temporary (Ne.symm hne) k offset' hk, hwritten⟩
  have hpresent : ∀ j h', Function.update s.handles i (some ⟨place, offset + n⟩) j = some h' →
      h'.place = .temporary → s.temporary ≠ none := by
    intro j h' hh hplace
    obtain ⟨h₀, hold, heq⟩ := hcases j h' hh
    exact hs.present j h₀ hold (heq.trans hplace)
  cases place with
  | temporary =>
      refine ⟨hholder, fun j h' hh hplace => ?_, fun j h' content hh hcontent => ?_, hmoved,
        hsaved (by decide)⟩
      · simpa [setHandle, put] using hpresent j h' hh hplace
      · obtain ⟨h₀, hold, _⟩ := hcases j h' hh
        obtain ⟨before, hbefore, rfl⟩ := Option.map_eq_some_iff.mp hcontent
        obtain ⟨k, offset', hk, hwritten⟩ := hs.temporary j h₀ before hold hbefore
        exact completes_put hn hhandle hself hothers hk hwritten
  | saved =>
      refine ⟨hholder, hpresent, htemporary (by decide), hmoved, ?_⟩
      rcases hs.saved with ⟨hplaces, _⟩ | ⟨hfile, content, hcontent, hwhole⟩
      · exact absurd rfl (hplaces i _ hhandle)
      · refine .inr ⟨hfile, overwrite format.hole content offset
          (((format.encode s.memory.shared).drop offset).take n), ?_, ?_⟩
        · simp [setHandle, put, hcontent]
        · rcases hwhole with rfl | ⟨j, offset', hj, hwritten⟩
          · exact .inl (overwrite_whole format.hole hn)
          · exact .inr (completes_put hn hhandle hself hothers hj hwritten)
  | replaced =>
      exact ⟨hholder, hpresent, htemporary (by decide), hmoved, hsaved (by decide)⟩

theorem Overlap.rename {base : Option (List β)} {s : DiskState σ β}
    (hs : s.Overlap format base) {i : Nat} {h : Handle} (hhandle : s.handles i = some h)
    (hwhole : h.offset = (format.encode s.memory.shared).length) {memory' : SavedState σ}
    (hfile : memory'.file = s.memory.shared) (hshared : memory'.shared = s.memory.shared)
    (hkeep : ∀ j ≠ i, memory'.serialized? j = s.memory.serialized? j) :
    Overlap format base { s.renameOver.setHandle i none with memory := memory' } := by
  obtain ⟨place, offset⟩ := h
  subst hwhole
  cases htemp : s.temporary with
  | none =>
      have hcases : ∀ j h', Function.update s.handles i none j = some h' →
          j ≠ i ∧ s.handles j = some h' := by
        intro j h' hh
        rw [Function.update_apply] at hh
        split at hh
        case isTrue => cases hh
        case isFalse hne => exact ⟨hne, hh⟩
      have hplace : place ≠ .temporary := by
        rintro rfl
        exact hs.present i _ hhandle rfl htemp
      have hcurrent : s.memory.file = s.memory.shared := hs.moved i _ hhandle hplace
      simp only [renameOver, htemp, setHandle]
      refine ⟨fun j h' hh => ?_, fun j h' hh hplace' => ?_, fun _ _ _ _ hnone => ?_,
        fun _ _ _ _ => hfile.trans hshared.symm, ?_⟩
      · obtain ⟨hne, hold⟩ := hcases j h' hh
        rw [hkeep j hne]
        exact hs.holder j h' hold
      · obtain ⟨_, hold⟩ := hcases j h' hh
        exact absurd htemp (hs.present j h' hold hplace')
      · cases hnone
      · rcases hs.saved with ⟨hplaces, hstands⟩ | ⟨_, content, hcontent, hcompletes⟩
        · refine .inl ⟨fun j h' hh => hplaces j h' (hcases j h' hh).2, ?_⟩
          simpa only [Stands, hfile, hcurrent] using hstands
        · refine .inr ⟨hfile.trans hshared.symm, content, hcontent, ?_⟩
          rw [hshared]
          rcases hcompletes with rfl | ⟨j, offset', hj, hwritten⟩
          · exact .inl rfl
          · by_cases hij : j = i
            · subst hij
              rw [hhandle] at hj
              cases hj
              exact .inl hwritten.eq_of_length
            · exact .inr ⟨j, offset', (Function.update_of_ne hij _ s.handles).trans hj, hwritten⟩
  | some content =>
      have hcases : ∀ j h', Function.update
          (fun k => (s.handles k).map fun h => { h with place := h.place.renamed }) i none j =
            some h' →
          j ≠ i ∧ ∃ h₀, s.handles j = some h₀ ∧ h' = { h₀ with place := h₀.place.renamed } := by
        intro j h' hh
        rw [Function.update_apply] at hh
        split at hh
        case isTrue => cases hh
        case isFalse hne =>
          obtain ⟨h₀, hold, heq⟩ := Option.map_eq_some_iff.mp hh
          exact ⟨hne, h₀, hold, heq.symm⟩
      simp only [renameOver, htemp, setHandle]
      refine ⟨fun j h' hh => ?_, fun j h' hh hplace' => ?_, fun _ _ _ _ hnone => ?_,
        fun _ _ _ _ => hfile.trans hshared.symm,
        .inr ⟨hfile.trans hshared.symm, content, rfl, ?_⟩⟩
      · obtain ⟨hne, h₀, hold, _⟩ := hcases j h' hh
        rw [hkeep j hne]
        exact hs.holder j h₀ hold
      · obtain ⟨_, h₀, _, rfl⟩ := hcases j h' hh
        cases hplace₀ : h₀.place with
        | _ => rw [hplace₀] at hplace'; cases hplace'
      · cases hnone
      · rw [hshared]
        obtain ⟨j, offset', hj, hwritten⟩ := hs.temporary i _ content hhandle htemp
        by_cases hij : j = i
        · subst hij
          rw [hhandle] at hj
          cases hj
          exact .inl hwritten.eq_of_length
        · refine .inr ⟨j, offset', ?_, hwritten⟩
          dsimp only
          rw [Function.update_of_ne hij, hj]
          rfl

theorem memory_step {s s' : DiskState σ β} {e : DiskEvent ω} (he : e.faultless)
    (hstep : s.step format program e = some s') :
    s'.memory = s.memory ∨ ∃ e', s.memory.step program e' = some s'.memory := by
  cases e with
  | spawn op =>
      cases hstep
      exact .inr ⟨.spawn op, rfl⟩
  | «section» i =>
      simp only [step] at hstep
      split at hstep
      · cases hstep
      · obtain ⟨memory', hmemory, rfl⟩ := Option.map_eq_some_iff.mp hstep
        exact .inr ⟨.advance i, hmemory⟩
  | create i =>
      simp only [step] at hstep
      split at hstep <;> cases hstep
      exact .inl rfl
  | write i n =>
      simp only [step] at hstep
      split at hstep
      · split at hstep <;> cases hstep
        simp only [setHandle, put]
        split <;> exact .inl rfl
      · cases hstep
  | rename i =>
      simp only [step] at hstep
      split at hstep
      · split at hstep
        · obtain ⟨memory', hmemory, rfl⟩ := Option.map_eq_some_iff.mp hstep
          exact .inr ⟨.advance i, hmemory⟩
        · cases hstep
      · cases hstep
  | fail i => exact he.elim
  | crash => exact he.elim

theorem memory_inv_step (hprogram : ∀ op, (program op).Settles view false)
    {s s' : DiskState σ β} {e : DiskEvent ω} (he : e.faultless)
    (hstep : s.step format program e = some s') (hs : s.memory.Inv view) :
    s'.memory.Inv view := by
  rcases memory_step he hstep with hsame | ⟨e', hmemory⟩
  · rw [hsame]
    exact hs
  · exact hs.step hprogram hmemory

theorem Overlap.step {base : Option (List β)} {s s' : DiskState σ β} {e : DiskEvent ω}
    (he : e.faultless) (hmemory : s.memory.Inv view)
    (hstep : s.step format program e = some s') (hs : s.Overlap format base) :
    s'.Overlap format base := by
  cases e with
  | spawn op =>
      cases hstep
      refine hs.memory rfl (.inl rfl) fun i h _ hsaving => ?_
      obtain ⟨serialized, hser⟩ := Option.isSome_iff_exists.mp hsaving
      rw [SavedState.serialized?_spawn hser]
      rfl
  | «section» i =>
      simp only [DiskState.step] at hstep
      split at hstep
      case h_1 => cases hstep
      case h_2 hfree =>
        obtain ⟨memory', hadvance, rfl⟩ := Option.map_eq_some_iff.mp hstep
        obtain ⟨hfile, hshared, hothers⟩ := SavedState.advance_section hfree hadvance
        refine hs.memory hfile hshared fun j h hh hsaving => ?_
        have hne : j ≠ i := by
          rintro rfl
          rw [hs.no_handle hfree] at hh
          cases hh
        rw [hothers j hne]
        exact hsaving
  | create i =>
      simp only [DiskState.step] at hstep
      split at hstep
      case h_1 serialized hser hnone =>
        cases hstep
        exact hs.create (by rw [hser]; rfl) hnone
      case h_2 => cases hstep
  | write i n =>
      simp only [DiskState.step] at hstep
      split at hstep
      case h_1 serialized h hser hhandle =>
        cases hmemory.serialized?_eq hser
        split at hstep
        case isTrue hn =>
          cases hstep
          exact hs.write hhandle hn.2
        case isFalse => cases hstep
      case h_2 => cases hstep
  | rename i =>
      simp only [DiskState.step] at hstep
      split at hstep
      case h_1 serialized h hser hhandle =>
        cases hmemory.serialized?_eq hser
        split at hstep
        case isTrue hwhole =>
          obtain ⟨memory', hadvance, rfl⟩ := Option.map_eq_some_iff.mp hstep
          obtain ⟨hfile, hshared, _, hothers⟩ := SavedState.advance_save hser hadvance
          exact hs.rename hhandle hwhole hfile hshared hothers
        case isFalse => cases hstep
      case h_2 => cases hstep
  | fail i => exact he.elim
  | crash => exact he.elim

/--
However saves overlap on the temporary file, once all tasks are done the saved
file is what the last of them serialised, and that is the state in view.
-/
theorem stands_of_allDone (hprogram : ∀ op, (program op).Settles view false)
    {temporary saved : Option (List β)} {events : List (DiskEvent ω)} {t : DiskState σ β}
    (hrun : Run (step format program) (fun _ e => e.faultless) (start format temporary saved)
      events t)
    (hdone : t.memory.allDone = true) :
    t.Stands format saved ∧ view t.memory.file = view t.memory.shared := by
  have hstep : ∀ (s : DiskState σ β) (e : DiskEvent ω) (s' : DiskState σ β), e.faultless →
      s.step format program e = some s' → s.memory.Inv view ∧ s.Overlap format saved →
      s'.memory.Inv view ∧ s'.Overlap format saved := by
    intro s e s' he hnext hs
    exact ⟨memory_inv_step hprogram he hnext hs.1, hs.2.step he hs.1 hnext⟩
  have hinv : t.memory.Inv view ∧ t.Overlap format saved :=
    hrun.invariant hstep ⟨SavedState.inv_start view _, overlap_start format temporary saved⟩
  refine ⟨hinv.2.stands fun i => ?_, SavedState.file_eq_of_allDone hinv.1 hdone⟩
  exact hinv.2.no_handle (SavedState.serialized?_of_allDone hdone i)

/-! ## Saves that do not overlap, with failures and crashes -/

/-- No save creates the temporary file while another one has it open. -/
def alone (s : DiskState σ β) : DiskEvent ω → Prop
  | .create _ => ∀ i < s.memory.tasks.length, s.handles i = none
  | _ => True

instance (s : DiskState σ β) : DecidablePred (s.alone : DiskEvent ω → Prop)
  | .create _ => inferInstanceAs (Decidable (∀ i < s.memory.tasks.length, s.handles i = none))
  | .spawn _ | .section _ | .write _ _ | .rename _ | .fail _ | .crash => isTrue trivial

def finished (s : DiskState σ β) : DiskEvent ω → DiskState σ β → List σ
  | .rename i, _ => (s.memory.serialized? i).toList
  | _, _ => []

def afterSaves (format : FileFormat σ β) (saved : Option (List β)) (saves : List σ) :
    Option (List β) :=
  match saves.getLast? with
  | none => saved
  | some serialized => some (format.encode serialized)

theorem afterSaves_append (saved : Option (List β)) (before after : List σ) :
    afterSaves format saved (before ++ after) =
      afterSaves format (afterSaves format saved before) after := by
  rcases List.eq_nil_or_concat after with rfl | ⟨init, last, rfl⟩
  · simp [afterSaves]
  · simp [afterSaves]

def Exclusive (format : FileFormat σ β) (s : DiskState σ β) : Prop :=
  ∀ i h, s.handles i = some h →
    (∀ j ≠ i, s.handles j = none) ∧ h.place = .temporary ∧
    ∃ serialized, s.memory.serialized? i = some serialized ∧
      h.offset ≤ (format.encode serialized).length ∧
      s.temporary = some ((format.encode serialized).take h.offset)

theorem exclusive_start (format : FileFormat σ β) (temporary saved : Option (List β)) :
    Exclusive format (start format temporary saved) :=
  fun _ _ h => nomatch h

theorem Exclusive.no_handle {s : DiskState σ β} (hs : s.Exclusive format) {i : Nat}
    (hfree : s.memory.serialized? i = none) : s.handles i = none := by
  cases hhandle : s.handles i with
  | none => rfl
  | some h =>
      obtain ⟨_, _, serialized, hser, _⟩ := hs i h hhandle
      rw [hfree] at hser
      cases hser

theorem Exclusive.memory {s : DiskState σ β} (hs : s.Exclusive format)
    {memory' : SavedState σ} (hkeep : ∀ i serialized, s.handles i ≠ none →
      s.memory.serialized? i = some serialized → memory'.serialized? i = some serialized) :
    Exclusive format { s with memory := memory' } := by
  intro i h hh
  obtain ⟨halone, hplace, serialized, hser, hrest⟩ := hs i h hh
  exact ⟨halone, hplace, serialized, hkeep i serialized (hh ▸ Option.some_ne_none h) hser, hrest⟩

theorem Exclusive.closed {s : DiskState σ β} (hs : s.Exclusive format) {i : Nat} {h : Handle}
    (hhandle : s.handles i = some h) {s' : DiskState σ β}
    (hhandles : s'.handles = Function.update s.handles i none) : s'.Exclusive format := by
  intro j h' hh
  rw [hhandles, Function.update_apply] at hh
  split at hh
  case isTrue => cases hh
  case isFalse hne =>
    rw [(hs i h hhandle).1 j hne] at hh
    cases hh

theorem overwrite_take (hole : β) {whole : List β} {offset n : Nat}
    (hn : offset + n ≤ whole.length) :
    overwrite hole (whole.take offset) offset ((whole.drop offset).take n) =
      whole.take (offset + n) := by
  have hlen : (whole.take offset).length = offset := by
    rw [List.length_take]
    omega
  have hrest : (whole.take offset).drop (offset + ((whole.drop offset).take n).length) = [] :=
    List.drop_eq_nil_of_le (by omega)
  have hall : (whole.take offset).take offset = whole.take offset :=
    List.take_of_length_le (by omega)
  rw [overwrite, hrest, hall, hlen, Nat.sub_self, List.replicate_zero, List.append_nil,
    List.append_nil, List.take_add]

theorem giveUp_serialized? {s : SavedState σ} {i : Nat} {serialized : σ}
    (hsaving : s.serialized? i = some serialized) :
    (giveUp s i).serialized? i = none ∧
      ∀ j ≠ i, (giveUp s i).serialized? j = s.serialized? j := by
  obtain ⟨task, htask, hser⟩ := SavedState.exists_of_serialized? hsaving
  rw [giveUp, htask]
  cases task with
  | free rest => cases hser
  | reading value rest =>
      exact ⟨SavedState.serialized?_setTask_free rest,
        fun j hj => SavedState.serialized?_setTask_ne _ hj⟩
  | writing value rest =>
      exact ⟨SavedState.serialized?_setTask_free rest,
        fun j hj => SavedState.serialized?_setTask_ne _ hj⟩

theorem exclusive_fail {s : DiskState σ β} {i : Nat} {serialized : σ}
    (hs : s.Exclusive format) (hsaving : s.memory.serialized? i = some serialized) :
    Exclusive format ({ s with memory := giveUp s.memory i }.setHandle i none) := by
  cases hhandle : s.handles i with
  | some h => exact hs.closed hhandle rfl
  | none =>
      have hsame : Function.update s.handles i none = s.handles := by
        rw [← hhandle, Function.update_eq_self]
      simp only [setHandle, hsame]
      refine hs.memory fun j value hopen hser => ?_
      have hne : j ≠ i := fun heq => hopen (heq ▸ hhandle)
      rw [(giveUp_serialized? hsaving).2 j hne, hser]

theorem exclusive_create {s : DiskState σ β} {i : Nat} {serialized : σ}
    (hs : s.Exclusive format) (halone : ∀ j < s.memory.tasks.length, s.handles j = none)
    (hsaving : s.memory.serialized? i = some serialized) :
    Exclusive format
      ({ s with temporary := some [] }.setHandle i (some ⟨.temporary, 0⟩)) := by
  have hnone : ∀ j, s.handles j = none := by
    intro j
    by_cases hj : j < s.memory.tasks.length
    · exact halone j hj
    · refine hs.no_handle ?_
      rw [SavedState.serialized?, List.getElem?_eq_none (Nat.not_lt.mp hj)]
      rfl
  intro j h hh
  simp only [setHandle, Function.update_apply] at hh ⊢
  split at hh
  case isTrue heq =>
    cases hh
    subst heq
    refine ⟨fun k hk => ?_, rfl, serialized, hsaving, Nat.zero_le _, rfl⟩
    rw [if_neg hk, hnone k]
  case isFalse =>
    rw [hnone j] at hh
    cases hh

theorem exclusive_write {s : DiskState σ β} {i n : Nat} {h : Handle} {serialized : σ}
    (hs : s.Exclusive format) (hsaving : s.memory.serialized? i = some serialized)
    (hhandle : s.handles i = some h)
    (hn : h.offset + n ≤ (format.encode serialized).length) :
    ∃ s', (s.put format.hole h (((format.encode serialized).drop h.offset).take n)).setHandle i
        (some { h with offset := h.offset + n }) = s' ∧
      s'.Exclusive format ∧ s'.saved = s.saved := by
  obtain ⟨hothers, hplace, value, hvalue, _, hcontent⟩ := hs i h hhandle
  cases hsaving.symm.trans hvalue
  refine ⟨_, rfl, fun j h' hh => ?_, ?_⟩
  · simp only [setHandle, put, hplace, Function.update_apply] at hh ⊢
    split at hh
    case isTrue heq =>
      cases hh
      subst heq
      refine ⟨fun k hk => ?_, rfl, serialized, hsaving, hn, ?_⟩
      · rw [if_neg hk, hothers k hk]
      · rw [hcontent, Option.map_some, overwrite_take format.hole hn]
    case isFalse hne =>
      rw [hothers j hne] at hh
      cases hh
  · simp only [setHandle, put, hplace]

theorem Exclusive.step {s s' : DiskState σ β} {e : DiskEvent ω} (hs : s.Exclusive format)
    (halone : s.alone e) (hstep : s.step format program e = some s') :
    s'.Exclusive format ∧ s'.saved = afterSaves format s.saved (s.finished e s') := by
  cases e with
  | spawn op =>
      cases hstep
      exact ⟨hs.memory fun _ _ _ hser => SavedState.serialized?_spawn hser, rfl⟩
  | «section» i =>
      simp only [DiskState.step] at hstep
      split at hstep
      case h_1 => cases hstep
      case h_2 hfree =>
        obtain ⟨memory', hadvance, rfl⟩ := Option.map_eq_some_iff.mp hstep
        refine ⟨hs.memory fun j value hopen hser => ?_, rfl⟩
        have hne : j ≠ i := fun heq => hopen (heq ▸ hs.no_handle hfree)
        rw [(SavedState.advance_section hfree hadvance).2.2 j hne, hser]
  | create i =>
      simp only [DiskState.step] at hstep
      split at hstep
      case h_1 serialized hser hnone =>
        cases hstep
        exact ⟨exclusive_create hs halone hser, rfl⟩
      case h_2 => cases hstep
  | write i n =>
      simp only [DiskState.step] at hstep
      split at hstep
      case h_1 serialized h hser hhandle =>
        split at hstep
        case isTrue hn =>
          obtain ⟨_, rfl, hexclusive, hsaved⟩ := exclusive_write hs hser hhandle hn.2
          cases hstep
          exact ⟨hexclusive, hsaved⟩
        case isFalse => cases hstep
      case h_2 => cases hstep
  | rename i =>
      simp only [DiskState.step] at hstep
      split at hstep
      case h_1 serialized h hser hhandle =>
        split at hstep
        case isTrue hwhole =>
          obtain ⟨memory', hadvance, rfl⟩ := Option.map_eq_some_iff.mp hstep
          obtain ⟨hothers, _, value, hvalue, _, hcontent⟩ := hs i h hhandle
          cases hser.symm.trans hvalue
          rw [hwhole, List.take_length] at hcontent
          refine ⟨?_, ?_⟩
          · intro j h' hh
            simp only [renameOver, hcontent, setHandle, Function.update_apply] at hh
            split at hh
            case isTrue => cases hh
            case isFalse hne => simp [hothers j hne] at hh
          · simp [renameOver, hcontent, setHandle, afterSaves, finished, hser]
        case isFalse => cases hstep
      case h_2 => cases hstep
  | fail i =>
      simp only [DiskState.step] at hstep
      split at hstep <;> cases hstep
      case h_1.refl serialized hser => exact ⟨exclusive_fail hs hser, rfl⟩
  | crash =>
      cases hstep
      exact ⟨exclusive_start format s.temporary s.saved, rfl⟩

/--
While saves have the temporary file to themselves the saved file is at every
moment the last finished save, whatever fails and wherever the process stops.
-/
theorem saved_eq_afterSaves {s t : DiskState σ β} {events : List (DiskEvent ω)}
    (hrun : Run (step format program) alone s events t) (hs : s.Exclusive format) :
    t.saved = afterSaves format s.saved (gather (step format program) finished s events) := by
  induction hrun with
  | nil => rfl
  | cons halone hnext _ ih =>
      obtain ⟨hexclusive, hsaved⟩ := hs.step halone hnext
      rw [gather_cons hnext, afterSaves_append, ih hexclusive, hsaved]

end DiskState

end Girasol.Foundation
