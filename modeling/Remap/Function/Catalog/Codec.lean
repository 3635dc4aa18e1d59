import Remap.Function.Basic

/-!
# Encoding and hash functions

The functions that encode and decode, and those that compute digests and checksums.
-/

namespace Remap.Catalog

/-!
## Codecs

The functions that encode and decode. Decoding can fail, encoding mostly cannot.
-/

/-- Functions that encode or decode. -/
def codec : List FunctionSpec := [
  { name := "encode_base64", category := .codec, fallible := false
    parameters :=
      [.required "value" "string", .optional "padding" "bool", .optional "charset" "string"]
    returnType := "string"
    description := "Encodes a string to Base64." },
  { name := "decode_base64", category := .codec, fallible := true
    parameters := [.required "value" "string", .optional "charset" "string"]
    returnType := "string"
    description := "Decodes a Base64 string."
    sample := some ".decoded = decode_base64!(.encoded)" },
  { name := "encode_percent", category := .codec, fallible := false
    parameters := [.required "value" "string", .optional "ascii_set" "string"]
    returnType := "string"
    description := "Percent-encodes a string." },
  { name := "decode_percent", category := .codec, fallible := true
    parameters := [.required "value" "string"]
    returnType := "string"
    description := "Decodes a percent-encoded string." },
  { name := "encode_json", category := .codec, fallible := false
    parameters := [.required "value" "any", .optional "pretty" "bool"]
    returnType := "string"
    description := "Encodes a value as a JSON string."
    sample := some ".payload = encode_json(.)" },
  { name := "encode_key_value", category := .codec, fallible := true
    parameters :=
      [.required "value" "object", .optional "fields_ordering" "array",
        .optional "key_value_delimiter" "string", .optional "field_delimiter" "string"]
    returnType := "string"
    description := "Encodes an object as key-value pairs." },
  { name := "encode_logfmt", category := .codec, fallible := true
    parameters := [.required "value" "object", .optional "fields_ordering" "array"]
    returnType := "string"
    description := "Encodes an object as a logfmt string." },
  { name := "encode_gzip", category := .codec, fallible := false
    parameters := [.required "value" "string", .optional "compression_level" "int"]
    returnType := "string"
    description := "Compresses a string with gzip." },
  { name := "decode_gzip", category := .codec, fallible := true
    parameters := [.required "value" "string"]
    returnType := "string"
    description := "Decompresses a gzip-compressed string." },
  { name := "encode_zstd", category := .codec, fallible := false
    parameters := [.required "value" "string", .optional "compression_level" "int"]
    returnType := "string"
    description := "Compresses a string with zstd." },
  { name := "decode_zstd", category := .codec, fallible := true
    parameters := [.required "value" "string"]
    returnType := "string"
    description := "Decompresses a zstd-compressed string." }]

/-!
## Hash functions

The functions that compute digests and checksums.
-/

/-- Functions that hash a value. -/
def hash : List FunctionSpec := [
  { name := "md5", category := .hash, fallible := false
    parameters := [.required "value" "string"]
    returnType := "string"
    description := "Calculates the MD5 hash of a string." },
  { name := "sha1", category := .hash, fallible := false
    parameters := [.required "value" "string"]
    returnType := "string"
    description := "Calculates the SHA-1 hash of a string." },
  { name := "sha2", category := .hash, fallible := false
    parameters := [.required "value" "string", .optional "variant" "string"]
    returnType := "string"
    description := "Calculates a SHA-2 hash of a string."
    sample := some ".digest = sha2(.message)" },
  { name := "sha3", category := .hash, fallible := false
    parameters := [.required "value" "string", .optional "variant" "string"]
    returnType := "string"
    description := "Calculates a SHA-3 hash of a string." },
  { name := "hmac", category := .hash, fallible := false
    parameters :=
      [.required "value" "string", .required "key" "string", .optional "algorithm" "string"]
    returnType := "string"
    description := "Calculates an HMAC of a string with the given key." },
  { name := "seahash", category := .hash, fallible := false
    parameters := [.required "value" "string"]
    returnType := "int"
    description := "Calculates a SeaHash of a string." }]

end Remap.Catalog
