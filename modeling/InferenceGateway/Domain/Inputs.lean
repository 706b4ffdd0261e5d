import InferenceGateway.Config
import InferenceGateway.Library.Buffer

/-!
# Validating the client's input image

The declared mime type is ignored; the format is sniffed from magic bytes.
-/

namespace InferenceGateway

open Library Buffer

inductive ImageFormat where
  | jpeg
  | png
  | webp
  deriving DecidableEq, Repr

/-- The entries of `META`. -/
def ImageFormat.extension : ImageFormat → String
  | .jpeg => "jpg"
  | .png => "png"
  | .webp => "webp"

def ImageFormat.mediaType : ImageFormat → String
  | .jpeg => "image/jpeg"
  | .png => "image/png"
  | .webp => "image/webp"

structure DecodedImage where
  bytes : Bytes
  /-- Sniffed, not the label the client claimed. -/
  format : ImageFormat
  extension : String
  mediaType : String
  sha256 : String

def sniff (bytes : Bytes) : Option ImageFormat :=
  if bytes.length ≥ 3 ∧ byteAt bytes 0 = 0xff ∧ byteAt bytes 1 = 0xd8 ∧ byteAt bytes 2 = 0xff then
    some .jpeg
  else if bytes.length ≥ 8 ∧
      subarray bytes 0 8 = [0x89, 0x50, 0x4e, 0x47, 0x0d, 0x0a, 0x1a, 0x0a] then
    some .png
  else if bytes.length ≥ 12 ∧ ascii (subarray bytes 0 4) = "RIFF" ∧
      ascii (subarray bytes 8 12) = "WEBP" then
    some .webp
  else none

/-- The image, or the message of the `InputError`. -/
def readImage (platform : Platform) (bytes : Bytes) (maxBytes : Nat) :
    Except String DecodedImage :=
  if bytes.length = 0 then .error "input_reference is empty"
  else if bytes.length > maxBytes then
    .error ("input_reference exceeds the " ++ toString maxBytes ++ " byte limit")
  else
    match sniff bytes with
    | none => .error "input_reference is not a JPEG, PNG or WebP image"
    | some format => .ok {
        bytes := bytes
        format := format
        extension := format.extension
        mediaType := format.mediaType
        sha256 := platform.sha256 bytes }

end InferenceGateway
