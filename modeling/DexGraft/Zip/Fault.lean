/-!
What can keep an archive from being read or written.
-/
namespace DexGraft.Zip

inductive Defect
  | noEndRecord
  | severalDisks
  | directoryBeforeStart
  | directoryCut
  | directoryMark
  | extraField (id size : Nat)
  | extraNumber (name : String)
  | headerCut
  | headerMark
  | otherName (inDirectory : String)
  | overlap (name : String)
  | checksum (name : String)

inductive Codec
  | zlib
  | bzip2
  | lzma
  deriving DecidableEq

inductive Fault
  | malformed (defect : Defect)
  /-- The place of a local header lies before the start of the file. -/
  | beforeStart
  /-- The place of a local header is too far for any file. -/
  | farOffset
  | unsupported (what : String)
  | encrypted (name : String)
  | nameNotText
  | corruptStream {codec : Codec}
  | earlyEnd
  | layoutCut
  /-- A number does not fit into its field of a header. -/
  | fieldOverflow
  | zeroAlignment

def Defect.message : Defect → String
  | .noEndRecord => "File is not a zip file"
  | .severalDisks => "zipfiles that span multiple disks are not supported"
  | .directoryBeforeStart => "Bad offset for central directory"
  | .directoryCut => "Truncated central directory"
  | .directoryMark => "Bad magic number for central directory"
  | .extraField id size =>
      let digits := Nat.toDigits 16 id
      let padded := List.replicate (4 - digits.length) '0' ++ digits
      s!"Corrupt extra field {String.ofList padded} (size={size})"
  | .extraNumber name => s!"Corrupt zip64 extra field. {name} not found."
  | .headerCut => "Truncated file header"
  | .headerMark => "Bad magic number for file header"
  | .otherName name => s!"File name in directory {name} and header differ."
  | .overlap name => s!"Overlapped entries: {name} (possible zip bomb)"
  | .checksum name => s!"Bad CRC-32 for file {name}"

def Codec.complaint : Codec → String
  | .zlib => "Error -3 while decompressing data"
  | .bzip2 => "Invalid data stream"
  | .lzma => "Corrupt input data"

def Fault.message : Fault → String
  | .malformed defect => defect.message
  | .beforeStart => "[Errno 22] Invalid argument"
  | .farOffset => "cannot fit the offset into a file position"
  | .unsupported what => what
  | .encrypted name => s!"File {name} is encrypted, password required for extraction"
  | .nameNotText => "the entry name is not valid UTF-8"
  | @corruptStream codec => codec.complaint
  | .earlyEnd => "the entry ends early"
  | .layoutCut => "unpack requires a buffer of 4 bytes"
  | .fieldOverflow => "a header field is out of range"
  | .zeroAlignment => "the alignment is zero"

end DexGraft.Zip
