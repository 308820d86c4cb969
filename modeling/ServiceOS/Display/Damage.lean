import ServiceOS.Foundation.Word

/-! # Display damage

The rectangle of a frame that changed. Coordinates and sizes are 32-bit words, and the
arithmetic on them wraps. -/

namespace ServiceOS.Display

structure DamageRect where
  x : Int32
  y : Int32
  width : UInt32
  height : UInt32
deriving DecidableEq

section

variable (origin : Int32) (size : UInt32)

/-- Where a side ends. -/
def sideEnd : Int := (origin + size.toInt32).toInt

/-- The points of a side. -/
def Side (point : Int) : Prop := origin.toInt ≤ point ∧ point < origin.toInt + size.toNat

def Fits : Prop := origin.toInt + size.toNat < 2 ^ 31

end

namespace DamageRect

variable (rect other : DamageRect)

def clampedTo (width height : UInt32) : DamageRect :=
  let startX := rect.x.toInt.toNat
  let startY := rect.y.toInt.toNat
  let endX := min (sideEnd rect.x rect.width).toNat width.toNat
  let endY := min (sideEnd rect.y rect.height).toNat height.toNat
  if endX ≤ startX ∨ endY ≤ startY then ⟨0, 0, 0, 0⟩
  else ⟨.ofNat startX, .ofNat startY, .ofNat (endX - startX), .ofNat (endY - startY)⟩

def isEmpty : Bool := rect.width == 0 || rect.height == 0

/-- The bytes of the damaged columns in a row. -/
def rowByteSpan (strideBytes : Nat) (bytesPerPixel : UInt32) : Nat × Nat :=
  let left := rect.x.toInt.toNat
  let start := left * bytesPerPixel.toNat
  let stop := min ((left + rect.width.toNat) * bytesPerPixel.toNat) strideBytes
  (start, max stop start)

def unionRect : DamageRect :=
  let left := min rect.x.toInt other.x.toInt
  let top := min rect.y.toInt other.y.toInt
  let right := max (sideEnd rect.x rect.width) (sideEnd other.x other.width)
  let bottom := max (sideEnd rect.y rect.height) (sideEnd other.y other.height)
  if rect.isEmpty then other
  else if other.isEmpty then rect
  else ⟨.ofInt left, .ofInt top, .ofNat (Int32.ofInt (right - left)).toInt.toNat,
    .ofNat (Int32.ofInt (bottom - top)).toInt.toNat⟩

def Covers (across down : Int) : Prop :=
  Side rect.x rect.width across ∧ Side rect.y rect.height down

/-- The points that are covered on a screen. -/
def Shows (width height : UInt32) (across down : Int) : Prop :=
  rect.Covers across down ∧ (0 ≤ across ∧ across < width.toNat) ∧ 0 ≤ down ∧ down < height.toNat

end DamageRect

theorem toInt_ofInt_cases (low : -2 ^ 32 < value) (high : value < 2 ^ 32) :
    (-2 ^ 31 ≤ value ∧ value < 2 ^ 31 ∧ (Int32.ofInt value).toInt = value) ∨
      (2 ^ 31 ≤ value ∧ (Int32.ofInt value).toInt = value - 2 ^ 32) ∨
      (value < -2 ^ 31 ∧ (Int32.ofInt value).toInt = value + 2 ^ 32) := by
  rw [Int32.toInt_ofInt, Int32.size, Int.bmod_def]
  omega

theorem sideEnd_cases (origin : Int32) (size : UInt32) :
    (Fits origin size ∧ sideEnd origin size = origin.toInt + size.toNat) ∨
      (¬Fits origin size ∧ sideEnd origin size = origin.toInt + size.toNat - 2 ^ 32) := by
  have low := origin.le_toInt
  have high := origin.toInt_lt
  have small := size.toNat_lt
  have same : size.toInt32.toInt = Int.bmod size.toNat (2 ^ 32) := BitVec.toInt_eq_toNat_bmod _
  rw [Fits, sideEnd, Int32.toInt_add, same, Int.add_bmod_bmod, Int.bmod_def]
  omega

variable {rect other : DamageRect}

theorem covers_clampedTo (fitsX : Fits rect.x rect.width) (fitsY : Fits rect.y rect.height) :
    (rect.clampedTo width height).Covers across down ↔ rect.Shows width height across down := by
  have endX := (sideEnd_cases rect.x rect.width).resolve_right fun wraps => wraps.1 fitsX
  have endY := (sideEnd_cases rect.y rect.height).resolve_right fun wraps => wraps.1 fitsY
  have limitX := width.toNat_lt
  have limitY := height.toNat_lt
  have highX := rect.x.toInt_lt
  have highY := rect.y.toInt_lt
  unfold Fits at *
  rw [DamageRect.clampedTo, endX.2, endY.2]
  split <;> simp only [DamageRect.Shows, DamageRect.Covers, Side, Int32.toInt_zero,
    UInt32.toNat_zero, UInt32.toNat_ofNat']
  · omega
  · rw [Int32.toInt_ofNat_of_lt, Int32.toInt_ofNat_of_lt] <;> omega

/-- A rectangle with a side that wraps is taken for one that is off the screen. -/
theorem not_covers_clampedTo (wraps : ¬(Fits rect.x rect.width ∧ Fits rect.y rect.height)) :
    ¬(rect.clampedTo width height).Covers across down := by
  have endX := sideEnd_cases rect.x rect.width
  have endY := sideEnd_cases rect.y rect.height
  have smallX := rect.width.toNat_lt
  have smallY := rect.height.toNat_lt
  have off : min (sideEnd rect.x rect.width).toNat width.toNat ≤ rect.x.toInt.toNat ∨
      min (sideEnd rect.y rect.height).toNat height.toNat ≤ rect.y.toInt.toNat := by
    by_cases fits : Fits rect.x rect.width
    · have wrapped := endY.resolve_left fun fitsY => wraps ⟨fits, fitsY.1⟩
      omega
    · have wrapped := endX.resolve_left fun fitsX => fits fitsX.1
      omega
  simp only [DamageRect.clampedTo, if_pos off, DamageRect.Covers, Side, Int32.toInt_zero,
    UInt32.toNat_zero]
  omega

theorem clampedTo_exact_iff (rect : DamageRect) (width height : UInt32) :
    (∀ across down, (rect.clampedTo width height).Covers across down ↔
        rect.Shows width height across down) ↔
      (Fits rect.x rect.width ∧ Fits rect.y rect.height) ∨
        ∀ across down, ¬rect.Shows width height across down := by
  by_cases fits : Fits rect.x rect.width ∧ Fits rect.y rect.height
  · exact iff_of_true (fun _ _ => covers_clampedTo fits.1 fits.2) (.inl fits)
  · simp only [fits, false_or, iff_false_left (not_covers_clampedTo fits)]

/-- A clamped rectangle is on the screen. -/
theorem clampedTo_inside (rect : DamageRect) (width height : UInt32) :
    (rect.clampedTo width height).x.toInt.toNat + (rect.clampedTo width height).width.toNat ≤
      width.toNat ∧
    (rect.clampedTo width height).y.toInt + (rect.clampedTo width height).height.toNat ≤
      height.toNat := by
  have highX := rect.x.toInt_lt
  have highY := rect.y.toInt_lt
  rw [DamageRect.clampedTo]
  split <;> simp only [Int32.toInt_zero, UInt32.toNat_zero, UInt32.toNat_ofNat']
  · omega
  · rw [Int32.toInt_ofNat_of_lt, Int32.toInt_ofNat_of_lt] <;> omega

theorem not_covers_of_isEmpty (empty : rect.isEmpty = true) : ¬rect.Covers across down := by
  simp only [DamageRect.isEmpty, Bool.or_eq_true, beq_iff_eq] at empty
  rcases empty with none | none <;>
    simp only [DamageRect.Covers, Side, none, UInt32.toNat_zero] <;> omega

/-- Two sides that both fit or both wrap, and what lies between their ends fits. -/
structure Joins (origin origin' : Int32) (size size' : UInt32) : Prop where
  alike : Fits origin size ↔ Fits origin' size'
  narrow : max (origin.toInt + size.toNat) (origin'.toInt + size'.toNat) -
    min origin.toInt origin'.toInt < 2 ^ 31

theorem joins_iff (long : size ≠ 0) (long' : size' ≠ 0) :
    (∀ point, Side origin size point ∨ Side origin' size' point →
        Side (.ofInt (min origin.toInt origin'.toInt)) (.ofNat (Int32.ofInt
          (max (sideEnd origin size) (sideEnd origin' size') -
            min origin.toInt origin'.toInt)).toInt.toNat) point) ↔
      Joins origin origin' size size' := by
  have some := UInt32.toNat_inj.not.mpr long
  have some' := UInt32.toNat_inj.not.mpr long'
  have ends := sideEnd_cases origin size
  have ends' := sideEnd_cases origin' size'
  have low := origin.le_toInt
  have low' := origin'.le_toInt
  have high := origin.toInt_lt
  have high' := origin'.toInt_lt
  have small := size.toNat_lt
  have small' := size'.toNat_lt
  have span := @toInt_ofInt_cases (max (sideEnd origin size) (sideEnd origin' size') -
    min origin.toInt origin'.toInt)
  have left := @toInt_ofInt_cases (min origin.toInt origin'.toInt)
  simp only [Fits, Side, UInt32.toNat_ofNat', UInt32.toNat_zero] at *
  constructor
  · intro contains
    have last := contains (origin.toInt + size.toNat - 1) (.inl (by omega))
    have last' := contains (origin'.toInt + size'.toNat - 1) (.inr (by omega))
    constructor <;> (try unfold Fits) <;> omega
  · rintro ⟨alike, narrow⟩ point inside
    unfold Fits at alike
    omega

theorem side_origin (long : size ≠ 0) : Side origin size origin.toInt := by
  have some := UInt32.toNat_inj.not.mpr long
  simp only [Side, UInt32.toNat_zero] at *
  omega

theorem unionRect_contains_iff (rect other : DamageRect) :
    (∀ across down, rect.Covers across down ∨ other.Covers across down →
        (rect.unionRect other).Covers across down) ↔
      rect.isEmpty ∨ other.isEmpty ∨ (Joins rect.x other.x rect.width other.width ∧
        Joins rect.y other.y rect.height other.height) := by
  rw [DamageRect.unionRect]
  by_cases empty : rect.isEmpty = true
  · rw [if_pos empty]
    exact iff_of_true (fun _ _ covered => covered.resolve_left (not_covers_of_isEmpty empty))
      (.inl empty)
  by_cases empty' : other.isEmpty = true
  · rw [if_neg empty, if_pos empty']
    exact iff_of_true (fun _ _ covered => covered.resolve_right (not_covers_of_isEmpty empty'))
      (.inr (.inl empty'))
  rw [if_neg empty, if_neg empty', or_iff_right empty, or_iff_right empty']
  simp only [DamageRect.isEmpty, Bool.or_eq_true, beq_iff_eq, not_or] at empty empty'
  rw [← joins_iff empty.1 empty'.1, ← joins_iff empty.2 empty'.2]
  constructor
  · intro contains
    constructor
    · rintro across (inside | inside)
      · exact (contains across _ (.inl ⟨inside, side_origin empty.2⟩)).1
      · exact (contains across _ (.inr ⟨inside, side_origin empty'.2⟩)).1
    · rintro down (inside | inside)
      · exact (contains _ down (.inl ⟨side_origin empty.1, inside⟩)).2
      · exact (contains _ down (.inr ⟨side_origin empty'.1, inside⟩)).2
  · rintro ⟨columns, rows⟩ across down (covered | covered)
    · exact ⟨columns across (.inl covered.1), rows down (.inl covered.2)⟩
    · exact ⟨columns across (.inr covered.1), rows down (.inr covered.2)⟩

/-- What the two operations on rectangles get right, and that the spans of a clamped rectangle
are always inside the buffer. -/
theorem damage_exact_iff (rect other : DamageRect) (width height : UInt32) :
    ((∀ across down, (rect.clampedTo width height).Covers across down ↔
        rect.Shows width height across down) ↔
      (Fits rect.x rect.width ∧ Fits rect.y rect.height) ∨
        ∀ across down, ¬rect.Shows width height across down) ∧
    ((∀ across down, rect.Covers across down ∨ other.Covers across down →
        (rect.unionRect other).Covers across down) ↔
      rect.isEmpty ∨ other.isEmpty ∨ (Joins rect.x other.x rect.width other.width ∧
        Joins rect.y other.y rect.height other.height)) ∧
    ∀ strideBytes bytesPerPixel, width.toNat * bytesPerPixel.toNat ≤ strideBytes →
      ∀ row : Nat, (∃ across, (rect.clampedTo width height).Covers across row) →
        let span := (rect.clampedTo width height).rowByteSpan strideBytes bytesPerPixel
        span.1 ≤ span.2 ∧ row * strideBytes + span.2 ≤ height.toNat * strideBytes := by
  refine ⟨clampedTo_exact_iff rect width height, unionRect_contains_iff rect other, ?_⟩
  rintro strideBytes bytesPerPixel enough row ⟨across, covered⟩
  rcases clampedTo_inside rect width height with ⟨columns, rows⟩
  generalize rect.clampedTo width height = clamped at *
  have last := (Nat.mul_le_mul_right bytesPerPixel.toNat columns).trans enough
  have first := (Nat.mul_le_mul_right bytesPerPixel.toNat (Nat.le_add_right _ _)).trans last
  have inside : (row + 1) * strideBytes ≤ height.toNat * strideBytes :=
    Nat.mul_le_mul_right _ (by have := covered.2.2; omega)
  rw [Nat.add_mul, Nat.one_mul] at inside
  simp only [DamageRect.rowByteSpan]
  omega

/-- A rectangle that is too wide is not shown, though its corner is on the screen. -/
theorem clampedTo_loses_wide :
    (⟨0, 0, 2 ^ 31, 1⟩ : DamageRect).clampedTo 640 480 = ⟨0, 0, 0, 0⟩ ∧
      (⟨0, 0, 2 ^ 31, 1⟩ : DamageRect).Covers 0 0 := by
  unfold DamageRect.Covers Side
  decide

end ServiceOS.Display
