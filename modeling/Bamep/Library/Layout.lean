import Mathlib.Algebra.Order.Ring.Nat
import Mathlib.Data.List.Basic

/-! Fixed-width byte layouts: big-endian numbers and buffers filled by consecutive writes. A buffer keeps
the ranges written so far, so that a finished layout can be shown to write every position exactly once. -/
namespace Layout

-- The low `width` bytes of `n`, most significant first.
def bigEndian : Nat → Nat → List UInt8
  | 0,_ => []
  | width + 1,n => .ofNat (n / 256 ^ width) :: bigEndian width n

def ofBigEndian : List UInt8 → Nat
  | [] => 0
  | b :: rest => b.toNat * 256 ^ rest.length + ofBigEndian rest

@[simp] theorem bigEndianLength (width n : Nat) : (bigEndian width n).length = width := by
  induction width with
  | zero => rfl
  | succ width ih => simp only [bigEndian,List.length_cons,ih]

theorem ofBigEndianRead (width n : Nat) : ofBigEndian (bigEndian width n) = n % 256 ^ width := by
  induction width with
  | zero => simp [bigEndian,ofBigEndian,Nat.mod_one]
  | succ width ih =>
    simp only [bigEndian,ofBigEndian,bigEndianLength,ih,UInt8.toNat_ofNat',Nat.reducePow]
    rw [pow_succ,Nat.mod_mul,Nat.mul_comm,Nat.add_comm]

theorem bigEndianInjective {width m n} (left : m < 256 ^ width) (right : n < 256 ^ width)
    (same : bigEndian width m = bigEndian width n) : m = n := by
  have read := congrArg ofBigEndian same
  rwa [ofBigEndianRead,ofBigEndianRead,Nat.mod_eq_of_lt left,Nat.mod_eq_of_lt right] at read

theorem ofBigEndianBound (bytes : List UInt8) : ofBigEndian bytes < 256 ^ bytes.length := by
  induction bytes with
  | nil => simp [ofBigEndian]
  | cons b rest ih =>
    have byte : b.toNat + 1 ≤ 256 := b.toNat_lt
    calc b.toNat * 256 ^ rest.length + ofBigEndian rest
      _ < b.toNat * 256 ^ rest.length + 256 ^ rest.length := by omega
      _ = (b.toNat + 1) * 256 ^ rest.length := by rw [Nat.succ_mul]
      _ ≤ 256 * 256 ^ rest.length := Nat.mul_le_mul_right _ byte
      _ = 256 ^ (rest.length + 1) := by rw [Nat.pow_succ,Nat.mul_comm]

theorem ofBigEndianInjective {xs ys} (length : xs.length = ys.length)
    (same : ofBigEndian xs = ofBigEndian ys) : xs = ys := by
  induction xs generalizing ys with
  | nil => exact (List.length_eq_zero_iff.mp length.symm).symm
  | cons x xs ih =>
    cases ys with
    | nil => cases length
    | cons y ys =>
      have length : xs.length = ys.length := Nat.succ.inj length
      have left := ofBigEndianBound xs
      have right := ofBigEndianBound ys
      simp only [ofBigEndian,length] at same left
      have positive : 0 < 256 ^ ys.length := Nat.pow_pos (by decide)
      have heads : x.toNat = y.toNat := by
        have divided := congrArg (· / 256 ^ ys.length) same
        simpa [Nat.mul_add_div positive,Nat.mul_comm _ (256 ^ ys.length),Nat.div_eq_of_lt left,
          Nat.div_eq_of_lt right] using divided
      rw [heads] at same
      rw [UInt8.toNat_inj.mp heads,ih length (Nat.add_left_cancel same)]

section Buffer
variable {α : Type}

def slice (items : List α) (start stop : Nat) : List α := (items.drop start).take (stop - start)

theorem sliceLength {items : List α} {start stop} (fits : stop ≤ items.length) :
    (slice items start stop).length = stop - start := by
  simp only [slice,List.length_take,List.length_drop]
  omega

theorem sliceJoin {items : List α} {start middle stop} (low : start ≤ middle) (high : middle ≤ stop) :
    slice items start middle ++ slice items middle stop = slice items start stop := by
  have split : stop - start = (middle - start) + (stop - middle) := by omega
  have next : start + (middle - start) = middle := by omega
  rw [slice,slice,slice,split,List.take_add,List.drop_drop,next]

-- `buf[start..stop].copy_from_slice(src)`; `none` is a panic.
def copyFromSlice (buf : List α) (start stop : Nat) (src : List α) : Option (List α) :=
  if start ≤ stop ∧ stop ≤ buf.length ∧ src.length = stop - start then
    some (buf.take start ++ src ++ buf.drop stop)
  else none

-- A write right behind what was already written.
theorem copyNext {content rest src : List α} {start stop} (here : content.length = start)
    (width : start + src.length = stop) (fits : src.length ≤ rest.length) :
    copyFromSlice (content ++ rest) start stop src = some (content ++ src ++ rest.drop src.length) := by
  unfold copyFromSlice
  rw [if_pos ⟨by omega,by rw [List.length_append]; omega,by omega⟩,← here,List.take_left,← width,← here,
    List.drop_append]
  simp

structure Cursor (α : Type) where
  buf : List α
  offset : Nat
  written : List (Nat × Nat)

namespace Cursor

def new (buf : List α) : Cursor α := ⟨buf,0,[]⟩

-- A write of `width` items at the offset, which it moves.
def copy (c : Cursor α) (width : Nat) (src : List α) : Option (Cursor α) :=
  (copyFromSlice c.buf c.offset (c.offset + width) src).map fun buf =>
    ⟨buf,c.offset + width,c.written ++ [(c.offset,width)]⟩

def fill (c : Cursor α) (parts : List (Nat × List α)) : Option (Cursor α) :=
  parts.foldlM (fun c part => c.copy part.1 part.2) c

def writesAt (c : Cursor α) (i : Nat) : Nat :=
  c.written.countP fun range => range.1 ≤ i && i < range.1 + range.2

/- The buffer holds `content` and then what it held before; the written positions are those of `content`. -/
structure Filled (c : Cursor α) (size : Nat) (content : List α) : Prop where
  offset : c.offset = content.length
  sized : c.buf.length = size
  holds : c.buf.take content.length = content
  once : ∀ i, c.writesAt i = if i < content.length then 1 else 0

theorem filledNew (buf : List α) : (new buf).Filled buf.length [] :=
  ⟨rfl,rfl,rfl,fun _ => rfl⟩

theorem filledCopy {c : Cursor α} {size content src} (filled : c.Filled size content)
    (fits : content.length + src.length ≤ size) :
    ∃ next, c.copy src.length src = some next ∧ next.Filled size (content ++ src) := by
  obtain ⟨offset,sized,holds,once⟩ := filled
  have split : c.buf = content ++ c.buf.drop content.length := by
    conv_lhs => rw [← List.take_append_drop content.length c.buf,holds]
  have copied : copyFromSlice c.buf c.offset (c.offset + src.length) src =
      some (content ++ src ++ (c.buf.drop content.length).drop src.length) := by
    conv_lhs => rw [split]
    exact copyNext offset.symm rfl (by rw [List.length_drop]; omega)
  refine ⟨_,by rw [copy,copied,Option.map_some],?_,?_,?_,?_⟩
  · simp [offset]
  · simp only [List.length_append,List.length_drop]
    omega
  · exact List.take_left
  · intro i
    have before := once i
    simp only [writesAt] at before ⊢
    rw [List.countP_append,before,List.countP_singleton,offset,List.length_append]
    simp only [Bool.and_eq_true,decide_eq_true_eq]
    split_ifs <;> omega

theorem filledFill {size : Nat} {parts} (widths : ∀ part ∈ parts, part.2.length = part.1) :
    ∀ {c : Cursor α} {content : List α}, c.Filled size content →
      content.length + (parts.flatMap Prod.snd).length ≤ size →
      ∃ last, c.fill parts = some last ∧ last.Filled size (content ++ parts.flatMap Prod.snd) := by
  induction parts with
  | nil =>
    intro c content filled _
    exact ⟨c,rfl,by simpa using filled⟩
  | cons part parts ih =>
    intro c content filled fits
    have width : part.2.length = part.1 := widths part List.mem_cons_self
    simp only [List.flatMap_cons,List.length_append] at fits
    have room : content.length + part.2.length ≤ size := by omega
    obtain ⟨next,copied,filledNext⟩ := filledCopy filled room
    obtain ⟨last,rest,filledLast⟩ := ih (fun p mem => widths p (List.mem_cons_of_mem _ mem)) filledNext
      (by simp only [List.length_append]; omega)
    refine ⟨last,?_,by simpa [List.append_assoc] using filledLast⟩
    rw [width] at copied
    simp only [fill,List.foldlM_cons,copied]
    exact rest

/- Parts that are as long as the whole buffer replace it, and every position is written exactly once. -/
theorem fillWhole {buf} {parts : List (Nat × List α)} (widths : ∀ part ∈ parts, part.2.length = part.1)
    (whole : (parts.flatMap Prod.snd).length = buf.length) :
    ∃ last, (new buf).fill parts = some last ∧ last.buf = parts.flatMap Prod.snd ∧ last.offset = buf.length ∧
      ∀ i, last.writesAt i = if i < buf.length then 1 else 0 := by
  obtain ⟨last,filled,⟨offset,sized,holds,once⟩⟩ := filledFill widths (filledNew buf) (by simp [whole])
  simp only [List.nil_append] at offset holds once
  refine ⟨last,filled,?_,by rw [offset,whole],by simpa only [whole] using once⟩
  rwa [whole,← sized,List.take_length] at holds

end Cursor
end Buffer
end Layout
