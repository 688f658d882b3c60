import Girasol.Foundation.Lossy
import Girasol.Foundation.Text
import Mathlib.Algebra.Ring.Nat

/-!
# Requests to the key panel

A request is read from a stream in chunks as they arrive: the headers up to the
first blank line, and then as much of a body as `Content-Length` announces.
-/

namespace Girasol

open Foundation

/-- What one read of the stream gives; a stream that is at its end gives no more. -/
inductive StreamRead where
  | data (chunk : List UInt8)
  | failed

structure Request where
  method : String
  path : String
  auth : Option String
  body : List UInt8
  deriving DecidableEq

namespace Panel

def findSubsequence (haystack needle : List UInt8) : Option Nat :=
  haystack.tails.findIdx? fun tail => needle.isPrefixOf tail

def headerEnd : List UInt8 := [13, 10, 13, 10]

def readHead (buf : List UInt8) : List StreamRead → Option (List UInt8 × Nat × List StreamRead)
  | [] => none
  | .failed :: _ => none
  | .data chunk :: reads =>
      if chunk.isEmpty then none
      else
        match findSubsequence (buf ++ chunk) headerEnd with
        | some pos => some (buf ++ chunk, pos, reads)
        | none =>
            if 64 * 1024 < (buf ++ chunk).length then none else readHead (buf ++ chunk) reads

def readBody (contentLength : Nat) (body : List UInt8) : List StreamRead → Option (List UInt8)
  | [] => some body
  | read :: reads =>
      if body.length < contentLength then
        match read with
        | .failed => none
        | .data chunk =>
            if chunk.isEmpty then some body else readBody contentLength (body ++ chunk) reads
      else some body

structure Headers where
  auth : Option String := none
  contentLength : Nat := 0

def readHeader (headers : Headers) (line : String) : Headers :=
  match splitOnce line ':' with
  | none => headers
  | some (k, v) =>
      let k := toAsciiLowercase (trim k)
      if k = "authorization" then { headers with auth := some (trim v) }
      else if k = "content-length" then
        { headers with contentLength := (parseUnsigned (2 ^ 64) (trim v)).toOption.getD 0 }
      else headers

def readRequest (reads : List StreamRead) : Option Request := do
  let (buf, pos, reads) ← readHead [] reads
  match lines (fromUtf8Lossy (buf.take pos)) with
  | [] => none
  | requestLine :: headerLines =>
      match splitWhitespace requestLine with
      | method :: rawPath :: _ =>
          let path := ((rawPath.toList.splitOn '?').head?.map String.ofList).getD ""
          let headers := headerLines.foldl readHeader {}
          if 256 * 1024 < headers.contentLength then none
          else
            let body ← readBody headers.contentLength (buf.drop (pos + 4)) reads
            return ⟨method, path, headers.auth, body.take headers.contentLength⟩
      | _ => none

end Panel

end Girasol
