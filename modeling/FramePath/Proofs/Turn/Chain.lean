import FramePath.Proofs.Turn.Textbook
import Mathlib.Algebra.Order.BigOperators.Group.Finset
import Mathlib.Algebra.Ring.Parity
import Mathlib.Data.Finset.Option
import Mathlib.Data.PEquiv

/-!
# Chains of turns

A picture can be turned again and again, each time onto a zeroed canvas of its own length. `Turn.late` says which pixel
of the picture is found in which slot after one turn, and `Turn.provenance` says it for turns one after another. Both
are partial equivalences, so no pixel is ever found twice, and a slot without a pixel is zero (`byteAt_turnAll`). A turn
empties no more slots than it comes late, and a chain no more than all its turns together (`card_emptied_provenance`).

A picture keeps its bytes (`Whole.turnAll`), so no step of a chain is refused for a short buffer. A step that is
refused leaves the picture as it is, and what is left of a chain are its turns (`chain_eq`). `turned_in_chain` puts
this together.
-/

namespace FramePath

namespace Turn

variable {turn : Turn} {turns : List Turn} {size : Size} {pixelBytes slot pixel k : Nat} {picture : Picture}
  {angle : UInt32} {angles : List UInt32}

/-- A picture that has pixels, and their bytes and no more. -/
structure Whole (pixelBytes : Nat) (picture : Picture) : Prop where
  columns_pos : 0 < picture.size.columns
  rows_pos : 0 < picture.size.rows
  bytes_pos : 0 < pixelBytes
  size_eq : picture.pixels.size = picture.size.area * pixelBytes

/-- The turns among some angles, in their order. -/
def turnsOf (angles : List UInt32) : List Turn := angles.filterMap ofDegrees?

/-- The picture after a turn onto a zeroed canvas. -/
def turnOnce (pixelBytes : Nat) (picture : Picture) (turn : Turn) : Picture :=
  ⟨turn.turnedSize picture.size,
    turn.scatter picture.size pixelBytes picture.pixels (.blank picture.pixels.size)⟩

/-- The picture after several turns one after another. -/
def turnAll (pixelBytes : Nat) (turns : List Turn) (picture : Picture) : Picture :=
  turns.foldl (turnOnce pixelBytes) picture

/-- The pixel of a picture that a slot holds after one turn, and the slot that holds a pixel. The first slots hold
none, and the last pixels are in none. -/
def late (turn : Turn) (size : Size) : ℕ ≃. ℕ where
  toFun slot :=
    if turn.lateness size ≤ slot ∧ slot < size.area then
      some (turn.originPixel size (slot - turn.lateness size))
    else Option.none
  invFun pixel :=
    if pixel < size.area ∧ turn.pixelSlot size pixel < size.area then some (turn.pixelSlot size pixel)
    else Option.none
  inv slot pixel := by
    simp only [Option.ite_none_right_eq_some, Option.some.injEq]
    constructor
    · rintro ⟨⟨hpixel, hslot⟩, rfl⟩
      obtain ⟨brought, hbrought, horigin, hlate⟩ := @originPixel_pixelSlot turn size pixel hpixel
      refine ⟨⟨by omega, hslot⟩, ?_⟩
      rw [hlate, Nat.add_sub_cancel, horigin]
    · rintro ⟨⟨hlate, hslot⟩, rfl⟩
      obtain ⟨hpixel, hwritten⟩ := @pixelSlot_originPixel turn size (slot - turn.lateness size) (by omega)
      rw [Nat.sub_add_cancel hlate] at hwritten
      exact ⟨⟨hpixel, by omega⟩, hwritten⟩

/-- The pixel of a picture that a slot holds after several turns. -/
def provenance (size : Size) : List Turn → ℕ ≃. ℕ
  | [] => PEquiv.ofSet {slot | slot < size.area}
  | turn :: turns => (provenance (turn.turnedSize size) turns).trans (turn.late size)

/-- How many slots late several turns come, each by the size that the turns before it leave. -/
def lost (size : Size) : List Turn → Nat
  | [] => 0
  | turn :: turns => turn.lateness size + lost (turn.turnedSize size) turns

/-- The slots of a picture in which nothing is found. -/
def emptied (area : Nat) (origin : ℕ ≃. ℕ) : Finset ℕ :=
  {slot ∈ Finset.range area | origin slot = Option.none}

section Steps

variable {source canvas : Bytes}

/-- A picture of a size with pixels is turned by every turn, if it is long enough and the canvas has room. -/
theorem apply_of_turn (hturn : ofDegrees? angle = some turn) (hfilled : size.isEmpty = false)
    (hbytes : 0 < pixelBytes) (henough : size.area * pixelBytes ≤ source.size)
    (hroom : size.area * pixelBytes ≤ canvas.size) :
    apply source canvas size pixelBytes angle =
      .ok (turn.turnedSize size, turn.scatter size pixelBytes source canvas) := by
  by_cases hupright : turn = none
  · subst hupright
    have hchecked : ¬ (size.isEmpty || pixelBytes == 0) = true := by
      rw [hfilled, Bool.false_or, beq_iff_eq]
      exact Nat.ne_of_gt hbytes
    unfold apply
    rw [hturn, ← overlay_eq_scatter hbytes hroom]
    dsimp only
    rw [if_neg hchecked, if_neg (Nat.not_lt.2 henough), if_neg (Nat.not_lt.2 hroom)]
    rfl
  · exact apply_of_room hturn hupright hfilled hbytes henough hroom

/-- A whole picture has room on a canvas of its own length. -/
theorem Whole.room (hwhole : Whole pixelBytes picture) :
    picture.size.area * pixelBytes ≤ (Bytes.blank picture.pixels.size).size := by
  rw [Bytes.size_blank, hwhole.size_eq]

/-- A whole picture is turned by every turn, and refused for every other angle. -/
theorem turnPicture_of_whole (hwhole : Whole pixelBytes picture) (angle : UInt32) :
    turnPicture pixelBytes angle picture =
      match ofDegrees? angle with
      | Option.none => .error (.unsupportedRotation angle)
      | some turn => .ok (turnOnce pixelBytes picture turn) := by
  have hfilled : picture.size.isEmpty = false := by
    rw [← Bool.not_eq_true, Size.isEmpty_iff_area]
    exact Nat.ne_of_gt (Nat.mul_pos hwhole.columns_pos hwhole.rows_pos)
  unfold turnPicture
  cases hturn : ofDegrees? angle with
  | none =>
    rw [apply_of_no_turn hturn]
    rfl
  | some turn =>
    rw [apply_of_turn hturn hfilled hwhole.bytes_pos (Nat.le_of_eq hwhole.size_eq.symm) hwhole.room]
    rfl

/-- A turn keeps the number of pixels of a picture. -/
theorem area_turnOnce (turn : Turn) (picture : Picture) :
    (turnOnce pixelBytes picture turn).size.area = picture.size.area := area_turnedSize turn picture.size

/-- A turn leaves a whole picture as many bytes as it had. -/
theorem Whole.size_turnOnce (hwhole : Whole pixelBytes picture) (turn : Turn) :
    (turnOnce pixelBytes picture turn).pixels.size = picture.pixels.size := by
  show (turn.scatter _ _ _ _).size = _
  rw [size_scatter hwhole.bytes_pos hwhole.room, Bytes.size_blank]

/-- A turn leaves a whole picture whole. -/
theorem Whole.turnOnce (hwhole : Whole pixelBytes picture) (turn : Turn) :
    Whole pixelBytes (turnOnce pixelBytes picture turn) := by
  have hsides : 0 < (turn.turnedSize picture.size).columns ∧ 0 < (turn.turnedSize picture.size).rows := by
    cases turn with
    | none => exact ⟨hwhole.columns_pos, hwhole.rows_pos⟩
    | quarter => exact ⟨hwhole.rows_pos, hwhole.columns_pos⟩
    | half => exact ⟨hwhole.columns_pos, hwhole.rows_pos⟩
    | threeQuarter => exact ⟨hwhole.rows_pos, hwhole.columns_pos⟩
  refine ⟨hsides.1, hsides.2, hwhole.bytes_pos, ?_⟩
  rw [hwhole.size_turnOnce, hwhole.size_eq, area_turnOnce]

/-- Several turns leave a whole picture whole, with as many bytes as it had. -/
theorem Whole.turnAll (hwhole : Whole pixelBytes picture) (turns : List Turn) :
    Whole pixelBytes (turnAll pixelBytes turns picture) ∧
      (turnAll pixelBytes turns picture).pixels.size = picture.pixels.size := by
  induction turns generalizing picture with
  | nil => exact ⟨hwhole, rfl⟩
  | cons turn turns ih =>
    obtain ⟨hlater, hsize⟩ := ih (hwhole.turnOnce turn)
    exact ⟨hlater, hsize.trans (hwhole.size_turnOnce turn)⟩

/-- What is left of a chain are its turns. -/
theorem chain_eq (hwhole : Whole pixelBytes picture) (angles : List UInt32) :
    chain pixelBytes angles picture = turnAll pixelBytes (turnsOf angles) picture := by
  induction angles generalizing picture with
  | nil => rfl
  | cons angle angles ih =>
    have hstep := turnPicture_of_whole hwhole angle
    unfold chain turnsOf
    rw [List.foldl_cons, List.filterMap_cons]
    unfold chainStep
    cases hturn : ofDegrees? angle with
    | none =>
      rw [hturn] at hstep
      rw [hstep]
      exact ih hwhole
    | some turn =>
      rw [hturn] at hstep
      rw [hstep]
      exact ih (hwhole.turnOnce turn)

end Steps

section Sizes

/-- The sides are exchanged once for each turn that exchanges them. -/
theorem size_turnAll (turns : List Turn) (picture : Picture) :
    (turnAll pixelBytes turns picture).size =
      Size.transposed^[turns.countP swapsSides] picture.size := by
  induction turns generalizing picture with
  | nil => rfl
  | cons turn turns ih =>
    have hlater := ih (turnOnce pixelBytes picture turn)
    change (turnAll pixelBytes turns (turnOnce pixelBytes picture turn)).size = _
    rw [hlater, List.countP_cons]
    unfold turnOnce turnedSize
    cases turn.swapsSides with
    | false => rfl
    | true => rfl

/-- The turns that exchange the sides are those by a right angle or by three. -/
theorem countP_swapsSides (angles : List UInt32) :
    (turnsOf angles).countP swapsSides = angles.countP fun angle => angle = 90 ∨ angle = 270 := by
  have hswaps (angle : UInt32) :
      ((ofDegrees? angle).map swapsSides).getD false = decide (angle = 90 ∨ angle = 270) := by
    unfold ofDegrees?
    split <;> simp_all [swapsSides]
  unfold turnsOf
  rw [List.countP_filterMap]
  exact List.countP_congr fun angle _ => by rw [hswaps]

/-- After an even number of quarter turns a picture has its own size, and after an odd number the sides are
exchanged. -/
theorem size_chain (hwhole : Whole pixelBytes picture) (angles : List UInt32) :
    (chain pixelBytes angles picture).size =
      if Even (angles.countP fun angle => angle = 90 ∨ angle = 270) then picture.size
      else picture.size.transposed := by
  have hinvolutive : Function.Involutive Size.transposed := Size.transposed_transposed
  rw [chain_eq hwhole, size_turnAll, countP_swapsSides]
  split_ifs with heven
  · rw [hinvolutive.iterate_even heven]
    rfl
  · rw [hinvolutive.iterate_odd (Nat.not_even_iff_odd.1 heven)]

end Sizes

section Pixels

/-- A slot holds a pixel of the picture after one turn, or none. -/
theorem late_apply (turn : Turn) (size : Size) (slot : Nat) :
    turn.late size slot =
      if turn.lateness size ≤ slot ∧ slot < size.area then
        some (turn.originPixel size (slot - turn.lateness size))
      else Option.none := rfl

/-- Before any turn a slot holds its own pixel. -/
theorem provenance_nil (hslot : slot < size.area) : provenance size [] slot = some slot :=
  PEquiv.mem_ofSet_self_iff.2 hslot

/-- What a slot holds in the end is, of the pixels after the first turn, the one found by the later turns. -/
theorem provenance_cons (turn : Turn) (turns : List Turn) (size : Size) (slot : Nat) :
    provenance size (turn :: turns) slot =
      (provenance (turn.turnedSize size) turns slot).bind (turn.late size) := rfl

/-- What a slot of the canvas holds is a pixel of the picture. -/
theorem lt_of_mem_late (hmem : pixel ∈ turn.late size slot) : slot < size.area ∧ pixel < size.area := by
  rw [Option.mem_def, late_apply, Option.ite_none_right_eq_some, Option.some.injEq] at hmem
  obtain ⟨⟨hlate, hslot⟩, rfl⟩ := hmem
  exact ⟨hslot, (pixelSlot_originPixel (by omega)).1⟩

/-- What a slot of the last canvas holds is a pixel of the first picture. -/
theorem lt_of_mem_provenance (hmem : pixel ∈ provenance size turns slot) :
    slot < size.area ∧ pixel < size.area := by
  induction turns generalizing size slot pixel with
  | nil =>
    obtain ⟨rfl, hslot⟩ := PEquiv.mem_ofSet_iff.1 hmem
    exact ⟨hslot, hslot⟩
  | cons turn turns ih =>
    obtain ⟨between, hlater, hfirst⟩ := (PEquiv.mem_trans _ _ _ _).1 hmem
    have hslot := (ih hlater).1
    rw [area_turnedSize] at hslot
    exact ⟨hslot, (lt_of_mem_late hfirst).2⟩

/-- A slot shows, after one turn, the pixel found in it, and is zero without one. -/
theorem byteAt_turnOnce (hwhole : Whole pixelBytes picture) (turn : Turn) (hslot : slot < picture.size.area)
    (hk : k < pixelBytes) :
    (turnOnce pixelBytes picture turn).pixels.byteAt (slot * pixelBytes + k) =
      (turn.late picture.size slot).elim 0 fun pixel => picture.pixels.byteAt (pixel * pixelBytes + k) := by
  show Bytes.byteAt (turn.scatter _ _ _ _) _ = _
  rw [byteAt_scatter hwhole.room hslot hk, late_apply]
  by_cases hearly : slot < turn.lateness picture.size
  · rw [if_pos hearly, if_neg (by omega), Bytes.byteAt_blank]
    rfl
  · rw [if_neg hearly, if_pos ⟨Nat.le_of_not_lt hearly, hslot⟩]
    rfl

/-- A slot shows, after several turns, the pixel found in it, and is zero without one. -/
theorem byteAt_turnAll (hwhole : Whole pixelBytes picture) (turns : List Turn) (hslot : slot < picture.size.area)
    (hk : k < pixelBytes) :
    (turnAll pixelBytes turns picture).pixels.byteAt (slot * pixelBytes + k) =
      (provenance picture.size turns slot).elim 0 fun pixel =>
        picture.pixels.byteAt (pixel * pixelBytes + k) := by
  induction turns generalizing picture with
  | nil =>
    rw [provenance_nil hslot]
    rfl
  | cons turn turns ih =>
    have hlater := ih (hwhole.turnOnce turn) (by rwa [area_turnOnce])
    refine hlater.trans ?_
    rw [provenance_cons]
    change _ = ((provenance (turnOnce pixelBytes picture turn).size turns slot).bind _).elim 0 _
    cases hbetween : provenance (turnOnce pixelBytes picture turn).size turns slot with
    | none => rfl
    | some between =>
      have hinside := (lt_of_mem_provenance (Option.mem_def.2 hbetween)).2
      rw [area_turnOnce] at hinside
      exact byteAt_turnOnce hwhole turn hinside hk

end Pixels

section Losses

variable {area : Nat} {first second : ℕ ≃. ℕ}

/-- A slot of a picture is empty if nothing is found in it. -/
theorem mem_emptied : slot ∈ emptied area first ↔ slot < area ∧ first slot = Option.none := by
  unfold emptied
  rw [Finset.mem_filter, Finset.mem_range]

/-- Every slot holds a pixel or is empty. -/
theorem card_held_add_emptied (area : Nat) (first : ℕ ≃. ℕ) :
    ((Finset.range area).filter fun slot => (first slot).isSome).card + (emptied area first).card = area := by
  have hparts := Finset.card_filter_add_card_filter_not (s := Finset.range area) fun slot => (first slot).isSome
  simp only [Option.not_isSome_iff_eq_none, Finset.card_range] at hparts
  exact hparts

/-- No more slots are empty after one turn than it comes late. -/
theorem card_emptied_late (turn : Turn) (size : Size) :
    (emptied size.area (turn.late size)).card ≤ turn.lateness size := by
  have hfirst : emptied size.area (turn.late size) ⊆ Finset.range (turn.lateness size) := by
    intro slot hslot
    obtain ⟨hinside, hempty⟩ := mem_emptied.1 hslot
    rw [late_apply, ite_eq_right_iff] at hempty
    rw [Finset.mem_range]
    by_contra hlate
    exact Option.some_ne_none _ (hempty ⟨Nat.le_of_not_lt hlate, hinside⟩)
  calc (emptied size.area (turn.late size)).card
      ≤ (Finset.range (turn.lateness size)).card := Finset.card_le_card hfirst
    _ = turn.lateness size := Finset.card_range _

/-- A slot that is empty in the end was empty before, or it would hold what an empty slot has to give. No two slots
would hold the same. -/
theorem card_emptied_trans (hinside : ∀ slot between, between ∈ first slot → between < area) :
    (emptied area (first.trans second)).card ≤ (emptied area first).card + (emptied area second).card := by
  have hcovered : emptied area (first.trans second) ⊆
      emptied area first ∪ (emptied area second).biUnion fun between => (first.symm between).toFinset := by
    intro slot hslot
    obtain ⟨harea, hempty⟩ := mem_emptied.1 hslot
    rw [Finset.mem_union, Finset.mem_biUnion]
    cases hbetween : first slot with
    | none => exact .inl (mem_emptied.2 ⟨harea, hbetween⟩)
    | some between =>
      have hcomposed : first.trans second slot = (first slot).bind second := rfl
      have hgone : second between = Option.none := by rwa [hcomposed, hbetween] at hempty
      refine .inr ⟨between, mem_emptied.2 ⟨hinside slot between hbetween, hgone⟩, ?_⟩
      rw [Option.mem_toFinset, PEquiv.mem_iff_mem]
      exact hbetween
  have hone (between : ℕ) : (first.symm between).toFinset.card ≤ 1 := by
    rw [Option.card_toFinset]
    cases first.symm between with
    | none => exact Nat.zero_le _
    | some _ => exact Nat.le_refl _
  calc (emptied area (first.trans second)).card
      ≤ (emptied area first).card +
          ((emptied area second).biUnion fun between => (first.symm between).toFinset).card :=
        (Finset.card_le_card hcovered).trans (Finset.card_union_le _ _)
    _ ≤ (emptied area first).card + (emptied area second).card * 1 :=
        Nat.add_le_add_left (Finset.card_biUnion_le_card_mul _ _ _ fun between _ => hone between) _
    _ = (emptied area first).card + (emptied area second).card := by rw [Nat.mul_one]

/-- No more slots are empty after several turns than these come late together. -/
theorem card_emptied_provenance (size : Size) (turns : List Turn) :
    (emptied size.area (provenance size turns)).card ≤ lost size turns := by
  induction turns generalizing size with
  | nil =>
    refine Nat.le_of_eq (Finset.card_eq_zero.2 (Finset.eq_empty_iff_forall_notMem.2 fun slot hslot => ?_))
    obtain ⟨hinside, hempty⟩ := mem_emptied.1 hslot
    exact Option.some_ne_none _ ((provenance_nil hinside).symm.trans hempty)
  | cons turn turns ih =>
    have hlater := ih (turn.turnedSize size)
    rw [area_turnedSize] at hlater
    calc (emptied size.area ((provenance (turn.turnedSize size) turns).trans (turn.late size))).card
        ≤ (emptied size.area (provenance (turn.turnedSize size) turns)).card +
            (emptied size.area (turn.late size)).card := card_emptied_trans fun slot between hbetween => by
          have hinside := (lt_of_mem_provenance hbetween).2
          rwa [area_turnedSize] at hinside
      _ ≤ lost (turn.turnedSize size) turns + turn.lateness size :=
        Nat.add_le_add hlater (card_emptied_late turn size)
      _ = turn.lateness size + lost (turn.turnedSize size) turns := Nat.add_comm _ _

end Losses

/-- Turning a picture by any angles one after another. A step is refused exactly if its angle is no turn, and for
nothing else. The picture has its own size after an even number of quarter turns, and otherwise its sides are
exchanged. Each slot of the last canvas shows the pixel that is found in it, or zero, and where pixels are found hangs
on the size and the angles alone: no pixel is found twice, and no more slots are empty than the turns come late
together. -/
theorem turned_in_chain (size : Size) (hcolumns : 0 < size.columns) (hrows : 0 < size.rows) (angles : List UInt32) :
    let quarters := angles.countP fun angle => angle = 90 ∨ angle = 270
    let origin := provenance size (turnsOf angles)
    (∀ slot pixel, pixel ∈ origin slot → slot < size.area ∧ pixel < size.area) ∧
    size.area - lost size (turnsOf angles) ≤
      ((Finset.range size.area).filter fun slot => (origin slot).isSome).card ∧
    ∀ pixelBytes pixels, 0 < pixelBytes → pixels.size = size.columns * size.rows * pixelBytes →
      let first : Picture := ⟨size, pixels⟩
      let last := chain pixelBytes angles first
      (∀ before angle, before ++ [angle] <+: angles → ∀ error,
        turnPicture pixelBytes angle (chain pixelBytes before first) = .error error ↔
          angle ∉ [0, 90, 180, 270] ∧ error = .unsupportedRotation angle) ∧
      last.size = (if Even quarters then size else size.transposed) ∧
      (quarters = 4 → last.size = size) ∧
      last.pixels.size = pixels.size ∧
      ∀ slot k, slot < size.area → k < pixelBytes →
        last.pixels.byteAt (slot * pixelBytes + k) =
          (origin slot).elim 0 fun pixel => pixels.byteAt (pixel * pixelBytes + k) := by
  have hheld := card_held_add_emptied size.area (provenance size (turnsOf angles))
  have hemptied := card_emptied_provenance size (turnsOf angles)
  refine ⟨fun slot pixel => lt_of_mem_provenance, by omega, fun pixelBytes pixels hbytes hpixels => ?_⟩
  have hwhole : Whole pixelBytes ⟨size, pixels⟩ := ⟨hcolumns, hrows, hbytes, hpixels⟩
  have hsize := size_chain hwhole angles
  refine ⟨fun before angle _ error => ?_, hsize, fun hfour => ?_, ?_, fun slot k hslot hk => ?_⟩
  · -- Whatever steps came before, the picture that they left is whole.
    rw [chain_eq hwhole, turnPicture_of_whole (hwhole.turnAll (turnsOf before)).1, ← ofDegrees?_eq_none_iff]
    cases ofDegrees? angle with
    | none => simp [eq_comm]
    | some turn => simp
  · exact hsize.trans (if_pos (hfour ▸ by decide))
  · rw [chain_eq hwhole]
    exact (hwhole.turnAll (turnsOf angles)).2
  · rw [chain_eq hwhole]
    exact byteAt_turnAll hwhole _ hslot hk

/-- Three columns and two rows are turned by a quarter, by no turn, by a half and by a quarter again. -/
theorem turned_in_chain_three_by_two :
    let first : Picture := ⟨⟨3, 2⟩, #[1, 2, 3, 4, 5, 6]⟩
    let last := chain 1 [90, 45, 180, 90] first
    turnPicture 1 45 (chain 1 [90] first) = .error (.unsupportedRotation 45) ∧
      last.size = ⟨3, 2⟩ ∧ last.pixels.size = 6 ∧ last.pixels.byteAt 1 = 2 ∧ last.pixels.byteAt 2 = 0 ∧
      lost ⟨3, 2⟩ [quarter, half, quarter] = 5 ∧
      1 ≤ ((Finset.range 6).filter fun slot => (provenance ⟨3, 2⟩ [quarter, half, quarter] slot).isSome).card := by
  obtain ⟨_, hheld, hpictures⟩ := turned_in_chain ⟨3, 2⟩ (by decide) (by decide) [90, 45, 180, 90]
  obtain ⟨hsteps, hsize, _, hlength, hbytes⟩ := hpictures 1 #[1, 2, 3, 4, 5, 6] (by decide) (by decide)
  have hrefused := (hsteps [90] 45 ⟨[180, 90], rfl⟩ (.unsupportedRotation 45)).2 ⟨by decide, rfl⟩
  have hshown := hbytes 1 0 (by decide) (by decide)
  have hblank := hbytes 2 0 (by decide) (by decide)
  exact ⟨hrefused, hsize.trans (if_pos (by decide)), hlength, hshown.trans (by decide +kernel),
    hblank.trans (by decide +kernel), by decide, hheld⟩

end Turn

end FramePath
