import UiScaffold.FileSystem.Action

/-!
Streams of bytes.

Descriptors lead to streams. Several descriptors can lead to the same stream and then share its
place: what is written through one of them comes behind what was written through the others.
-/

set_option autoImplicit false
set_option relaxedAutoImplicit false

namespace UiScaffold.Shell

/-- Something that bytes are read from and written to. -/
inductive Stream where
  /-- Gives no byte, and drops those it gets if it takes any. -/
  | nothing (isWritable : Bool)
  /-- Gives back the bytes that were written to it. -/
  | buffer (bytes : ByteArray)
  /-- A place in a file, or always the end of it. -/
  | file (location : Location) (offset : Nat) (atEnd isWritable : Bool)

/-- The files and all streams; a stream is named by its number. -/
structure World where
  files : FileSystem
  streams : Array Stream
  /-- How many processes there were. -/
  processes : Nat
  /-- The signals that processes got from others, with the number of the process. -/
  signals : List (Nat × Nat)

def overwrite (contents : ByteArray) (offset : Nat) (bytes : ByteArray) : ByteArray :=
  let before := contents.extract 0 offset
  let gap : ByteArray := ⟨Array.replicate (offset - contents.size) 0⟩
  before ++ gap ++ bytes ++ contents.extract (offset + bytes.size) contents.size

namespace World

def contentsAt (world : World) (location : Location) : ByteArray :=
  match world.files.get? location with
  | some (.file contents _) => contents
  | _ => ByteArray.empty

def setContents (world : World) (location : Location) (contents : ByteArray) : World :=
  match world.files.get? location with
  | some (.file _ mode) =>
    { world with files := world.files.put location (.file contents mode) }
  | _ => world

def setStream (world : World) (number : Nat) (stream : Stream) : World :=
  { world with streams := world.streams.setIfInBounds number stream }

def newProcess (world : World) : Nat × World :=
  (world.processes + 1, { world with processes := world.processes + 1 })

def openStream (world : World) (stream : Stream) : Nat × World :=
  (world.streams.size, { world with streams := world.streams.push stream })

/-- Writes bytes to a stream, if it takes them. -/
def write? (world : World) (number : Nat) (bytes : ByteArray) : Option World :=
  match world.streams[number]? with
  | none | some (.nothing false) | some (.file _ _ _ false) => none
  | some (.nothing true) => some world
  | some (.buffer before) => some (world.setStream number (.buffer (before ++ bytes)))
  | some (.file location offset atEnd true) =>
    let contents := world.contentsAt location
    let place := if atEnd then contents.size else offset
    let world := world.setContents location (overwrite contents place bytes)
    some (world.setStream number (.file location (place + bytes.size) atEnd true))

def readByte (world : World) (number : Nat) : Option UInt8 × World :=
  match world.streams[number]? with
  | none | some (.nothing _) => (none, world)
  | some (.buffer bytes) =>
    if bytes.size = 0 then (none, world)
    else (bytes[0]?, world.setStream number (.buffer (bytes.extract 1 bytes.size)))
  | some (.file location offset atEnd isWritable) =>
    match (world.contentsAt location)[offset]? with
    | some byte =>
        (some byte, world.setStream number (.file location (offset + 1) atEnd isWritable))
    | none => (none, world)

def readAll (world : World) (number : Nat) : ByteArray × World :=
  match world.streams[number]? with
  | none | some (.nothing _) => (ByteArray.empty, world)
  | some (.buffer bytes) => (bytes, world.setStream number (.buffer ByteArray.empty))
  | some (.file location offset atEnd isWritable) =>
    let contents := world.contentsAt location
    (contents.extract offset contents.size,
      world.setStream number (.file location contents.size atEnd isWritable))

def bytesIn (world : World) (number : Nat) : ByteArray :=
  match world.streams[number]? with
  | some (.buffer bytes) => bytes
  | _ => ByteArray.empty

end World

/-- Which stream every open descriptor leads to. -/
abbrev Descriptors := List (Nat × Nat)

namespace Descriptors

def set (descriptors : Descriptors) (number stream : Nat) : Descriptors :=
  (number, stream) :: descriptors.filter (·.1 ≠ number)

def close (descriptors : Descriptors) (number : Nat) : Descriptors :=
  descriptors.filter (·.1 ≠ number)

end Descriptors

end UiScaffold.Shell
