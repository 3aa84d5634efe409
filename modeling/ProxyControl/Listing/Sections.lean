import ProxyControl.Failure
import ProxyControl.Listing.Fields
import ProxyControl.Text.Lines

/-!
# Sections

A detailed answer is a block of `key: value` lines, which certain header lines may cut into
sections, one record each. What stands before the first header belongs to no record but may
supply what the records have in common.
-/
namespace ProxyControl.Listing

open Text

/-- How one kind of record is put together from the lines of its section. -/
structure SectionShape (σ : Type) where
  /-- A fresh record, given the record or preamble before it. -/
  start : Option σ → σ
  /-- Whether a key opens a section. -/
  isHeader : Text → Bool := fun _ => false
  /-- Takes in a key, its value, and the whole line for reporting it. -/
  apply : σ → Text → Text → Text → Result σ
  /-- Whether a record is complete. -/
  finish : σ → Result Unit := fun _ => .ok ()

/-- Where the reader stands: in a section, past lines outside any section, or before both. -/
inductive Position
  | start
  | preamble
  | record
  deriving DecidableEq, Repr

namespace SectionShape

variable {σ : Type} (shape : SectionShape σ)

def applyLine (current : σ) (line : Text) : Result σ :=
  let (key, value) := keyValue line
  shape.apply current key value line

/-- The records of the remaining lines, the current one included. -/
def collect (position : Position) (current : σ) : List Text → Result (List σ)
  | [] =>
    if position = .start then .ok []
    else do
      shape.finish current
      pure [current]
  | line :: rest =>
    if shape.isHeader (keyValue line).1 then do
      if position = .record then shape.finish current
      -- the lines before the first header are no record, but they may say something for all
      let next ← shape.applyLine (shape.start (some current)) line
      let more ← collect .record next rest
      pure (if position = .record then current :: more else more)
    else do
      let next ← shape.applyLine current line
      collect (if position = .record then .record else .preamble) next rest

/-- One record per section. Without headers all lines together make one record. -/
def read (text : Text) : Result (List σ) :=
  shape.collect .start (shape.start none) ((lines text).filter (!isBlank ·))

end SectionShape

end ProxyControl.Listing
