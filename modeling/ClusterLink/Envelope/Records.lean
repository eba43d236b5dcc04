/-
# Packed records

A sequence of byte strings in one: each record is preceded by its length, a
number of 64 bits, least byte first. `pack` writes the sequence and `unpack`
reads it back, saying where a length or a record is cut short.

Key definitions: `Records.pack`, `Records.unpack`.
-/
import ClusterLink.Failure

namespace ClusterLink.Records

/-- The size of a length in bytes. -/
def lengthSize : Nat := 8

/-- One record with its length in front. -/
def packOne (r : Bytes) : Bytes := Bytes.littleEndian lengthSize r.length ++ r

/-- The records one after the other. -/
def pack (rs : List Bytes) : Bytes := rs.flatMap packOne

/-- The records of `data`, which starts at `offset` of the whole. -/
def unpackFrom (offset : Nat) (data : Bytes) : Except Failure (List Bytes) :=
  if data = [] then .ok []
  else if _h : data.length < lengthSize then .error (.cutLength offset)
  else
    let claimed := Bytes.ofLittleEndian (data.take lengthSize)
    let body := data.drop lengthSize
    if body.length < claimed then
      .error (.cutRecord (offset + lengthSize) claimed body.length)
    else do
      let rs ← unpackFrom (offset + lengthSize + claimed) (body.drop claimed)
      .ok (body.take claimed :: rs)
termination_by data.length
decreasing_by simp [lengthSize] at *; omega

/-- The records of a packed sequence. -/
def unpack (data : Bytes) : Except Failure (List Bytes) := unpackFrom 0 data

end ClusterLink.Records
