import DuckdbCoda.Lib.Ownership

/-!
# Arrays that grow, and pointers to what they keep

An array has a block with `capacity` places. Pushing onto a full array moves
the items to a block with more places and frees the block they were in, so a
pointer into an array is good for as long as the array stays where it is. One
that has the room for what is pushed stays (`pushBack_stays`).

A text that is kept in an array lies in its place there, or, when it is too long
for that, in a block of its own, which moves with nobody. `pointerTo` is the
pointer to the characters in both cases, and `PointsInto` says that a pointer is
one of these; `keepText_spec` is the rule for handing out pointers while the array
is being filled.

A `Lender` is such an array with a second one, of records that point to the texts
of the first. `Lends` is what filling the two does, and `foldl_lends` the rule for
a loop that fills them.
-/

namespace DuckdbCoda

open Ownership

/-! ## The array -/

structure GrowingArray (α : Type) where
  storage : RawParts (List α)
  capacity : Nat
  fits : storage.contents.length ≤ capacity
  placed : storage.block = none → capacity = 0

namespace GrowingArray

variable {α γ : Type}

def empty : GrowingArray α := ⟨⟨none, []⟩, 0, Nat.le_refl 0, fun _ => rfl⟩

def items (array : GrowingArray α) : List α := array.storage.contents

/-- To a new block with these items in it; the old one is freed. -/
def move (array : GrowingArray α) (capacity : Nat) (items : List α)
    (fits : items.length ≤ capacity) (memory : Memory) : GrowingArray α × Memory :=
  ({ storage := ⟨some memory.alloc.1, items⟩, capacity, fits, placed := fun h => by cases h },
    array.storage.release memory.alloc.2)

/-- Room for `count` items in all. -/
def reserve (array : GrowingArray α) (count : Nat) (memory : Memory) : GrowingArray α × Memory :=
  if h : count ≤ array.capacity then (array, memory)
  else array.move count array.items (array.fits.trans (Nat.le_of_not_le h)) memory

/-- One more item. `grow` is how many places a full array gets, at least one. -/
def pushBack (grow : Nat → Nat) (array : GrowingArray α) (item : α) (memory : Memory) :
    GrowingArray α × Memory :=
  if h : array.items.length < array.capacity then
    ({ storage := ⟨array.storage.block, array.items ++ [item]⟩
       capacity := array.capacity
       fits := by rw [List.length_append]; exact h
       placed := array.placed }, memory)
  else
    array.move (max (grow array.capacity) (array.items.length + 1)) (array.items ++ [item])
      (by rw [List.length_append]; exact Nat.le_max_right _ _) memory

/-- One item after the other, into an array with room for all of them. -/
def ofList (grow : Nat → Nat) (items : List α) (memory : Memory) : GrowingArray α × Memory :=
  items.foldl (fun (array, memory) item => array.pushBack grow item memory)
    (empty.reserve items.length memory)

/-- Room for `count` more items. -/
def Room (array : GrowingArray α) (count : Nat) : Prop :=
  array.items.length + count ≤ array.capacity

variable {grow : Nat → Nat} {array : GrowingArray α} {item : α} {memory : Memory}
  {owned : Multiset Nat} {count : Nat}

@[simp] theorem items_empty : (empty : GrowingArray α).items = [] := rfl

@[simp] theorem reserve_items (array : GrowingArray α) (count : Nat) (memory : Memory) :
    (array.reserve count memory).1.items = array.items := by
  unfold reserve
  split <;> rfl

@[simp] theorem pushBack_items (grow : Nat → Nat) (array : GrowingArray α) (item : α)
    (memory : Memory) : (array.pushBack grow item memory).1.items = array.items ++ [item] := by
  unfold pushBack
  split <;> rfl

theorem reserve_empty_room (count : Nat) (memory : Memory) :
    ((empty : GrowingArray α).reserve count memory).1.Room count := by
  unfold reserve
  split
  case isTrue h => simpa [Room] using h
  case isFalse h => simp [Room, move, items, empty]

theorem Room.mono (h : array.Room count) {fewer : Nat} (hle : fewer ≤ count) :
    array.Room fewer := by
  unfold Room at *
  omega

theorem move_holds {capacity : Nat} {items : List α} {fits : items.length ≤ capacity}
    (h : memory.Holds (array.storage.blocks + owned)) :
    (array.move capacity items fits memory).2.Holds
      ((array.move capacity items fits memory).1.storage.blocks + owned) :=
  RawParts.release_holds (h.alloc.of_eq (add_left_comm _ _ _))

theorem reserve_holds (h : memory.Holds (array.storage.blocks + owned)) :
    (array.reserve count memory).2.Holds
      ((array.reserve count memory).1.storage.blocks + owned) := by
  unfold reserve
  split
  · exact h
  · exact move_holds h

theorem pushBack_holds (h : memory.Holds (array.storage.blocks + owned)) :
    (array.pushBack grow item memory).2.Holds
      ((array.pushBack grow item memory).1.storage.blocks + owned) := by
  unfold pushBack
  split
  · exact h
  · exact move_holds h

/-- An array with room for one more stays where it is. -/
theorem pushBack_stays (h : array.Room (count + 1)) :
    (array.pushBack grow item memory).1.storage.block = array.storage.block ∧
      (array.pushBack grow item memory).1.Room count := by
  have hlt : array.items.length < array.capacity := by
    unfold Room at h
    omega
  unfold Room at *
  rw [pushBack_items, List.length_append]
  unfold pushBack
  rw [dif_pos hlt]
  exact ⟨rfl, by simp; omega⟩

theorem foldl_pushBack (grow : Nat → Nat) : ∀ (items : List α) (state : GrowingArray α × Memory),
    (items.foldl (fun (array, memory) item => array.pushBack grow item memory) state).1.items =
        state.1.items ++ items ∧
      ∀ {owned : Multiset Nat}, state.2.Holds (state.1.storage.blocks + owned) →
        (items.foldl (fun (array, memory) item => array.pushBack grow item memory) state).2.Holds
          ((items.foldl (fun (array, memory) item =>
            array.pushBack grow item memory) state).1.storage.blocks + owned) := by
  intro items
  induction items with
  | nil => exact fun state => ⟨(List.append_nil _).symm, id⟩
  | cons item rest ih =>
      intro state
      obtain ⟨hitems, hholds⟩ := ih (state.1.pushBack grow item state.2)
      refine ⟨?_, fun h => hholds (pushBack_holds h)⟩
      rw [List.foldl_cons, hitems, pushBack_items, List.append_assoc]
      rfl

@[simp] theorem ofList_items (grow : Nat → Nat) (items : List α) (memory : Memory) :
    (ofList grow items memory).1.items = items := by
  unfold ofList
  rw [(foldl_pushBack grow items _).1, reserve_items]
  rfl

theorem ofList_holds (grow : Nat → Nat) (items : List α) (h : memory.Holds owned) :
    (ofList grow items memory).2.Holds ((ofList grow items memory).1.storage.blocks + owned) :=
  (foldl_pushBack grow items _).2 (reserve_holds (h.of_eq (zero_add owned).symm))

/-! ## Texts in an array -/

/-- The characters of a text of the array. -/
def pointerTo (array : GrowingArray (RawParts γ)) (text : RawParts γ) : RawParts γ :=
  ⟨text.block.or array.storage.block, text.contents⟩

def textBlocks (array : GrowingArray (RawParts γ)) : Multiset Nat :=
  array.storage.blocks + blocksOf RawParts.blocks array.items

/-- The texts first, and then the array. -/
def destroyTexts (array : GrowingArray (RawParts γ)) (memory : Memory) : Memory :=
  array.storage.release (array.items.foldl (fun memory text => text.release memory) memory)

/-- Keep a text at the end of the array, and point to it. -/
def keepText (grow : Nat → Nat) (inPlace : Bool) (text : γ) (array : GrowingArray (RawParts γ))
    (memory : Memory) : RawParts γ × GrowingArray (RawParts γ) × Memory :=
  let (text, memory) := RawParts.into inPlace text memory
  let (array, memory) := array.pushBack grow text memory
  (array.pointerTo text, array, memory)

/-- The pointer is that to one of the texts. -/
def PointsInto (array : GrowingArray (RawParts γ)) (pointer : RawParts γ) : Prop :=
  ∃ text ∈ array.items, pointer = array.pointerTo text

variable {texts : GrowingArray (RawParts γ)} {pointer : RawParts γ} {inPlace : Bool} {text : γ}

/-- A pointer to a text is not null: an array that keeps something has a block. -/
theorem PointsInto.isSome (h : texts.PointsInto pointer) : pointer.block.isSome := by
  obtain ⟨text, hmem, rfl⟩ := h
  have hpositive : 0 < texts.capacity :=
    Nat.lt_of_lt_of_le (List.length_pos_of_mem hmem) texts.fits
  have hblock : texts.storage.block.isSome := by
    rw [Option.isSome_iff_ne_none]
    intro hnone
    rw [texts.placed hnone] at hpositive
    exact Nat.lt_irrefl _ hpositive
  -- a short text lies in the array, a long one in a block of its own
  cases hown : text.block with
  | none => simpa [pointerTo, hown] using hblock
  | some block => simp [pointerTo, hown]

/-- What is pointed to is live as long as the array and its texts are. -/
theorem PointsInto.blocks_le (h : texts.PointsInto pointer) : pointer.blocks ≤ texts.textBlocks := by
  obtain ⟨text, hmem, rfl⟩ := h
  have htext := blocks_le_blocksOf (@RawParts.blocks γ) hmem
  unfold textBlocks
  cases hown : text.block with
  | none =>
      refine le_trans (le_of_eq ?_) (Multiset.le_add_right _ _)
      simp [pointerTo, RawParts.blocks, hown]
  | some block =>
      refine le_trans (le_of_eq ?_) (htext.trans (Multiset.le_add_left _ _))
      simp [pointerTo, RawParts.blocks, hown]

/-- Only the place of the array counts, and which texts it keeps. -/
theorem PointsInto.mono {more : GrowingArray (RawParts γ)} (h : texts.PointsInto pointer)
    (hblock : more.storage.block = texts.storage.block) (hitems : texts.items ⊆ more.items) :
    more.PointsInto pointer := by
  obtain ⟨text, hmem, rfl⟩ := h
  exact ⟨text, hitems hmem, by simp [pointerTo, hblock]⟩

/-- **Rule for a text that is kept.** The pointer is good, and with the room for the
text the pointers handed out before are as good as they were. -/
theorem keepText_spec (grow : Nat → Nat) (inPlace : Bool) (text : γ)
    (texts : GrowingArray (RawParts γ)) (memory : Memory) :
    ∃ pointer more memory', texts.keepText grow inPlace text memory = (pointer, more, memory') ∧
      pointer.contents = text ∧ more.PointsInto pointer ∧
      (∀ {count : Nat}, texts.Room (count + 1) → more.Room count ∧
        ∀ {earlier : RawParts γ}, texts.PointsInto earlier → more.PointsInto earlier) ∧
      ∀ {owned : Multiset Nat}, memory.Holds (texts.textBlocks + owned) →
        memory'.Holds (more.textBlocks + owned) := by
  let own := (RawParts.into inPlace text memory).1
  let mid := (RawParts.into inPlace text memory).2
  have hitems : (texts.pushBack grow own mid).1.items = texts.items ++ [own] :=
    pushBack_items grow texts own mid
  refine ⟨(texts.pushBack grow own mid).1.pointerTo own, (texts.pushBack grow own mid).1,
    (texts.pushBack grow own mid).2, rfl, RawParts.into_contents inPlace text memory,
    ⟨own, by simp [hitems], rfl⟩, ?_, ?_⟩
  · -- without the room the array would move, and the texts in it with their pointers
    intro count hroom
    obtain ⟨hblock, hless⟩ := @pushBack_stays _ grow texts own mid count hroom
    refine ⟨hless, fun hpoints => hpoints.mono hblock ?_⟩
    rw [hitems]
    exact List.subset_append_left _ _
  · intro owned h
    have hmid : mid.Holds (texts.storage.blocks +
        (own.blocks + blocksOf RawParts.blocks texts.items + owned)) :=
      (RawParts.into_holds inPlace text h).of_eq (by rw [textBlocks]; abel)
    refine (pushBack_holds hmid).of_eq ?_
    rw [textBlocks, hitems, blocksOf_append, blocksOf_cons, blocksOf_nil]
    abel

theorem destroyTexts_holds (h : memory.Holds (texts.textBlocks + owned)) :
    (texts.destroyTexts memory).Holds owned := by
  have each : ∀ (text : RawParts γ) (memory : Memory) (owned : Multiset Nat),
      memory.Holds (text.blocks + owned) → (text.release memory).Holds owned :=
    fun _ _ _ h => RawParts.release_holds h
  refine RawParts.release_holds (foldl_release_holds each texts.items (h.of_eq ?_))
  rw [textBlocks]
  abel

end GrowingArray

/-! ## Records that point to texts -/

/-- Texts, and records that point to some of them. -/
structure Lender (γ β : Type) where
  texts : GrowingArray (RawParts γ)
  lent : GrowingArray β

namespace Lender

open GrowingArray

variable {γ β δ ι : Type}

/-- Both arrays with room for `count`. -/
def withRoom (count : Nat) (memory : Memory) : Lender γ β × Memory :=
  let (texts, memory) := GrowingArray.empty.reserve count memory
  let (lent, memory) := GrowingArray.empty.reserve count memory
  (⟨texts, lent⟩, memory)

/-- A record that needs no text. -/
def lend (grow : Nat → Nat) (record : β) (lender : Lender γ β) (memory : Memory) :
    Lender γ β × Memory :=
  let (lent, memory) := lender.lent.pushBack grow record memory
  (⟨lender.texts, lent⟩, memory)

/-- A record made of the pointer to a text. -/
def lendText (grow : Nat → Nat) (inPlace : Bool) (text : γ) (record : RawParts γ → β)
    (lender : Lender γ β) (memory : Memory) : Lender γ β × Memory :=
  let (pointer, texts, memory) := lender.texts.keepText grow inPlace text memory
  let (lent, memory) := lender.lent.pushBack grow (record pointer) memory
  (⟨texts, lent⟩, memory)

def blocks (lender : Lender γ β) : Multiset Nat :=
  lender.texts.textBlocks + lender.lent.storage.blocks

/-- The records go first. -/
def destroy (lender : Lender γ β) (memory : Memory) : Memory :=
  lender.texts.destroyTexts (lender.lent.storage.release memory)

/-- There is room for `room` more texts, and every pointer in a record is good. -/
structure Sound (pointer : β → Option (RawParts γ)) (room : Nat) (lender : Lender γ β) : Prop where
  room : lender.texts.Room room
  pointers : ∀ record ∈ lender.lent.items, ∀ parts ∈ pointer record, lender.texts.PointsInto parts

/-- What a step lends: records that show `shown`, for a room of as many texts. -/
structure Lends (pointer : β → Option (RawParts γ)) (view : β → δ) (shown : List δ)
    (before after : Lender γ β × Memory) : Prop where
  lent : after.1.lent.items.map view = before.1.lent.items.map view ++ shown
  sound : ∀ {room : Nat}, before.1.Sound pointer (shown.length + room) →
    after.1.Sound pointer room
  holds : ∀ {owned : Multiset Nat}, before.2.Holds (before.1.blocks + owned) →
    after.2.Holds (after.1.blocks + owned)

variable {pointer : β → Option (RawParts γ)} {view : β → δ} {shown more : List δ}
  {before middle after : Lender γ β × Memory} {grow : Nat → Nat} {memory : Memory}
  {owned : Multiset Nat} {count : Nat}

theorem withRoom_lent (count : Nat) (memory : Memory) :
    (withRoom count memory : Lender γ β × Memory).1.lent.items = [] := by
  simp [withRoom]

theorem withRoom_sound (pointer : β → Option (RawParts γ)) (count : Nat) (memory : Memory) :
    (withRoom count memory).1.Sound pointer count where
  room := reserve_empty_room count memory
  pointers := by
    rw [withRoom_lent]
    intro record h
    cases h

theorem withRoom_holds (h : memory.Holds owned) :
    (withRoom count memory : Lender γ β × Memory).2.Holds
      ((withRoom count memory : Lender γ β × Memory).1.blocks + owned) := by
  have hnothing : (GrowingArray.empty : GrowingArray (RawParts γ)).storage.blocks = 0 := rfl
  have htexts := @reserve_holds (RawParts γ) .empty memory owned count
    (h.of_eq (by rw [hnothing, zero_add]))
  have hlent := @reserve_holds β .empty _ _ count (htexts.of_eq (zero_add _).symm)
  refine hlent.of_eq ?_
  rw [blocks, textBlocks]
  simp only [withRoom, reserve_items, items_empty, blocksOf_nil]
  abel

theorem destroy_holds {lender : Lender γ β} (h : memory.Holds (lender.blocks + owned)) :
    (lender.destroy memory).Holds owned := by
  refine destroyTexts_holds (RawParts.release_holds (h.of_eq ?_))
  rw [blocks]
  abel

theorem Sound.mono {lender : Lender γ β} (h : lender.Sound pointer count) {fewer : Nat}
    (hle : fewer ≤ count) : lender.Sound pointer fewer :=
  ⟨h.room.mono hle, h.pointers⟩

theorem Lends.refl (pointer : β → Option (RawParts γ)) (view : β → δ)
    (state : Lender γ β × Memory) : Lends pointer view [] state state where
  lent := (List.append_nil _).symm
  sound h := by simpa using h
  holds := id

theorem Lends.trans (h : Lends pointer view shown before middle)
    (hmore : Lends pointer view more middle after) :
    Lends pointer view (shown ++ more) before after where
  lent := by rw [hmore.lent, h.lent, List.append_assoc]
  sound hsound := by
    rw [List.length_append, Nat.add_assoc] at hsound
    exact hmore.sound (h.sound hsound)
  holds hmemory := hmore.holds (h.holds hmemory)

theorem lend_lends (view : β → δ) {record : β} (hnone : pointer record = none)
    (state : Lender γ β × Memory) :
    Lends pointer view [view record] state (state.1.lend grow record state.2) where
  lent := by simp [lend]
  sound := by
    intro room h
    refine ⟨h.room.mono (Nat.le_add_left _ _), ?_⟩
    intro item hmem parts hparts
    rw [show (state.1.lend grow record state.2).1.lent.items = state.1.lent.items ++ [record] from
      pushBack_items grow state.1.lent record state.2, List.mem_append, List.mem_singleton] at hmem
    rcases hmem with hmem | rfl
    · exact h.pointers item hmem parts hparts
    · rw [hnone] at hparts
      cases hparts
  holds := by
    intro owned h
    have hpushed := @pushBack_holds β grow state.1.lent record state.2
      (state.1.texts.textBlocks + owned) (h.of_eq (by rw [blocks]; abel))
    exact hpushed.of_eq (by rw [blocks]; simp only [lend]; abel)

theorem lendText_lends (pointer : β → Option (RawParts γ)) (view : β → δ) (inPlace : Bool)
    {text : γ} {record : RawParts γ → β} {seen : δ}
    (hpointer : ∀ parts, pointer (record parts) = some parts)
    (hview : ∀ parts : RawParts γ, parts.block.isSome → parts.contents = text →
      view (record parts) = seen) (state : Lender γ β × Memory) :
    Lends pointer view [seen] state (state.1.lendText grow inPlace text record state.2) := by
  obtain ⟨lender, memory⟩ := state
  obtain ⟨parts, texts, mid, hkeep, hcontents, hback, hkept, hholds⟩ :=
    keepText_spec grow inPlace text lender.texts memory
  simp only [lendText, hkeep]
  refine ⟨?_, ?_, ?_⟩
  · dsimp only
    rw [pushBack_items, List.map_append, List.map_singleton, hview parts hback.isSome hcontents]
  · intro room h
    have hless : lender.texts.Room (room + 1) := by
      rw [Nat.add_comm]
      exact h.room
    refine ⟨(hkept hless).1, ?_⟩
    intro item hmem parts' hparts
    dsimp only at hmem
    rw [pushBack_items, List.mem_append, List.mem_singleton] at hmem
    -- the records lent before point as they did, the new one to the text just kept
    rcases hmem with hmem | rfl
    · exact (hkept hless).2 (h.pointers item hmem parts' hparts)
    · rw [hpointer, Option.mem_some] at hparts
      exact hparts ▸ hback
  · intro owned h
    have hmid : mid.Holds (texts.textBlocks + (lender.lent.storage.blocks + owned)) :=
      hholds (h.of_eq (by rw [blocks]; abel))
    have hpushed := @pushBack_holds β grow lender.lent (record parts) mid
      (texts.textBlocks + owned) (hmid.of_eq (by abel))
    exact hpushed.of_eq (by rw [blocks]; abel)

/-- What was lent by a lender that had the room for it. -/
theorem Lends.filled (h : Lends pointer view shown (withRoom count memory) after)
    (hle : shown.length ≤ count) :
    after.1.lent.items.map view = shown ∧ after.1.Sound pointer 0 ∧
      ∀ {owned : Multiset Nat}, memory.Holds owned → after.2.Holds (after.1.blocks + owned) := by
  refine ⟨?_, h.sound ((withRoom_sound pointer count memory).mono hle), ?_⟩
  · rw [h.lent, withRoom_lent]
    rfl
  · exact fun hmemory => h.holds (withRoom_holds hmemory)

/-- **Rule for a loop that lends.** -/
theorem foldl_lends {step : Lender γ β × Memory → ι → Lender γ β × Memory} {shows : ι → List δ}
    (each : ∀ item state, Lends pointer view (shows item) state (step state item)) :
    ∀ (items : List ι) (state : Lender γ β × Memory),
      Lends pointer view (items.flatMap shows) state (items.foldl step state) := by
  intro items
  induction items with
  | nil => exact fun state => .refl pointer view state
  | cons item rest ih =>
      intro state
      rw [List.flatMap_cons, List.foldl_cons]
      exact (each item state).trans (ih (step state item))

end Lender

end DuckdbCoda
