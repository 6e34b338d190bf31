import PackedAttributes.Kernel.Basic
import PackedAttributes.Record

/-!
Reading all entries of a directory. Each call brings a batch of records one behind the other; each
record has its own length and is decoded on its own. The kernel demands that the set of returned
attributes is requested, since entries may hold different attributes. A batch without entries ends
the directory, and the first problem ends the reading without any entries.

What is assumed rather than modelled: that memory holds a buffer of the size that the reader is given.
A program whose reader asks for more than there can be breaks off before the first call.
-/
namespace PackedAttributes

/-- The entries at the start of a region: `count` records one behind the other. -/
def decodeBatch (requested : AttributeSet) :
    (count : Nat) → Region → Traced Failure (List AttributeValues)
  | 0, _ => pure []
  | count + 1, region => do
    let record ← .silently (Record.ofRegion region requested)
    let entry ← record.decode
    let rest ← decodeBatch requested count (region.drop record.size)
    return entry :: rest

/-- A way to read directories. -/
structure DirectoryReader where
  /-- The size of the buffer for a batch. Memory is assumed to hold a buffer of this size. -/
  bufferSize : Nat
  deriving DecidableEq, Repr

namespace DirectoryReader

/-- The reader with a buffer of the usual size. -/
def standard : DirectoryReader := ⟨64 * 1024⟩

/-- The call that asks for the next batch of entries. -/
def call (reader : DirectoryReader) (directory : Int32) (request : Request) : Call where
  subject := .entries directory
  list := request.attributeList
  options := request.options
  bufferLength := reader.bufferSize

/-- Ends the reading with the entries found so far. -/
def finish (target : Target) (entries : List AttributeValues) :
    Traced Failure (List AttributeValues) := do
  .report (.directoryFinished target.text entries.length)
  return entries

/-- Makes calls until one brings no entries, one fails or one brings an entry that cannot be
decoded. The buffer keeps what earlier calls wrote into it. -/
def readBatches (reader : DirectoryReader) (directory : Int32) (request : Request) :
    (buffer : Region) → (entries : List AttributeValues) → Script →
      Exchange Script Failure (List AttributeValues)
  | _, entries, [] => ⟨[reader.call directory request], finish (.descriptor directory) entries, []⟩
  | buffer, entries, reply :: rest =>
    let call := reader.call directory request
    let target := Target.descriptor directory
    match reply with
    | .failure error =>
      ⟨[call], ⟨[.callFailed .bulkRead target.text error],
        .error (.callFailed .bulkRead target.text error)⟩, rest⟩
    | .success written count =>
      if count = 0 then ⟨[call], finish target entries, rest⟩
      else
        let buffer := buffer.overwrite written
        let batch := decodeBatch request.attributes count buffer
        let events := .batchRead target.text count :: batch.events
        match batch.outcome with
        | .error failure => ⟨[call], ⟨events, .error failure⟩, rest⟩
        | .ok found =>
          let further := readBatches reader directory request buffer (entries ++ found) rest
          ⟨call :: further.calls,
            ⟨events ++ further.traced.events, further.traced.outcome⟩, further.state⟩

/-- Reads all entries of a directory with the attributes of a selection. One buffer serves all calls,
and it is assumed that `reader.bufferSize` bytes can be had for it. -/
def read (reader : DirectoryReader) (directory : Int32) (selection : Selection)
    (options : Options) : Dialogue Script Failure (List AttributeValues) :=
  if reader.bufferSize < lengthPrefixSize then
    Dialogue.fail (.invalidArgument
      s!"bulk buffer of {reader.bufferSize} bytes cannot hold an entry")
  else do
    let request ← Dialogue.quiet (Request.build selection options)
    fun script =>
      reader.readBatches directory request.withReturnedAttributes
        (Region.zeroed reader.bufferSize) [] script

end DirectoryReader

end PackedAttributes
