/-!
# Memory layout

Constants that the allocator, the object layout and the compiler share. They depend on no toggle;
the build is one for a machine with 64-bit words, and sizes are such words. `Layout.alignObjectSize`
rounds a size up to the object alignment in 64-bit arithmetic and gives `none` where the sum leaves
that range; `canDoImplicitNullCheckOn` says which offsets from a null reference are sure to fault.
-/

namespace RuntimeProfiles

/-- One kibibyte. -/
def kibibyte : UInt64 := 1024
/-- One mebibyte. -/
def mebibyte : UInt64 := kibibyte * kibibyte
/-- One gibibyte. -/
def gibibyte : UInt64 := kibibyte * kibibyte * kibibyte

/-- The layout constants of one build; all sizes are in bytes. -/
structure Layout where
  bitsPerByte : UInt64
  /-- The logarithm of `bitsPerByte` to base two. -/
  bitsPerByteLog2 : UInt64
  bitsPerPointer : UInt64
  stackAlignment : UInt64
  pageSize : UInt64
  /-- The logarithm of `objectAlignment` to base two. -/
  objectAlignmentShift : UInt64
  objectAlignment : UInt64
  largeObjectAlignment : UInt64
  /-- The size of a reference stored in the heap. -/
  heapReferenceSize : UInt64
deriving DecidableEq, Repr

namespace Layout

/-- The layout of a 64-bit build. -/
def native : Layout where
  bitsPerByte := 8
  bitsPerByteLog2 := 3
  bitsPerPointer := 64
  stackAlignment := 16
  pageSize := 4096
  objectAlignmentShift := 3
  objectAlignment := 8
  largeObjectAlignment := 4096
  heapReferenceSize := 4

/-- Rounds `size` up to the object alignment: adds one less than the alignment and clears the bits
below it. There is no answer if the sum does not fit in 64 bits. The alignment is positive. -/
def alignObjectSize (layout : Layout) (size : UInt64) : Option UInt64 :=
  let mask := layout.objectAlignment - 1
  if size.toNat + mask.toNat < UInt64.size then some ((size + mask) &&& ~~~mask) else none

/-- An access at `offset` from null stays in the first page, which is never mapped. -/
def canDoImplicitNullCheckOn (layout : Layout) (offset : UInt64) : Bool :=
  offset < layout.pageSize

end Layout

end RuntimeProfiles
