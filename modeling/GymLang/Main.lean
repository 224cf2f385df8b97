import GymLang.Json.Reader
import GymLang.Json.Writer
import GymLang.Wire.Decode
import GymLang.Wire.Encode

/-!
# The program

Serves one editor over standard input and output.  Each message is a JSON value behind a
header that gives its length in bytes and ends with an empty line.
-/

namespace GymLang
namespace Main

/-- The length a line of a header gives, if it is the one that does. -/
def contentLength? (line : String) : Option Nat := do
  let name := "content-length:".toList
  let t := line.toList
  guard (name.isPrefixOf (t.map Char.toLower))
  let digits := (t.drop name.length).filter fun c => !Token.isBlank c
  guard (!digits.isEmpty && digits.all Text.isDigit)
  return Number.natOfDigits digits

/-- The response to input that is no message at all. -/
def complaint (code : Int) (message : String) : Json :=
  .object [("jsonrpc", .string "2.0"),
    ("error", .object [("code", .int code), ("message", .string message)]), ("id", .null)]

/-- What the server does on a message as it came in, and what is sent. -/
def handle (s : Server) (t : Text) : Server × List Json :=
  match Json.read? t with
  | none => (s, [complaint (-32700) "Parse error"])
  | some j =>
    match Wire.event? j with
    | none => (s, [complaint (-32600) "Invalid request"])
    | some e =>
      let (s', out) := s.step e
      (s', out.map Wire.outgoing)

/-- Reads a header; none at the end of the input. -/
partial def readHeader (input : IO.FS.Stream) (length : Nat) : IO (Option Nat) := do
  let line ← input.getLine
  if line.isEmpty then return none
  else if line.toList.all Token.isBlank then return some length
  else readHeader input ((contentLength? line).getD length)

/-- Reads a number of bytes, fewer at the end of the input. -/
partial def readBytes (input : IO.FS.Stream) (length : Nat) (done : ByteArray) : IO ByteArray := do
  if length ≤ done.size then return done
  let more ← input.read (length - done.size).toUSize
  if more.isEmpty then return done
  else readBytes input length (done ++ more)

/-- Writes a message. -/
def send (output : IO.FS.Stream) (j : Json) : IO Unit := do
  let body := String.ofList j.write
  output.putStr ("Content-Length: " ++ toString body.utf8ByteSize ++ "\r\n\r\n" ++ body)
  output.flush

/-- Serves messages until the conversation or the input ends. -/
partial def serve (input output : IO.FS.Stream) (s : Server) : IO Unit := do
  match ← readHeader input 0 with
  | none => return
  | some length =>
    let bytes ← readBytes input length ByteArray.empty
    let text := ((String.fromUTF8? bytes).map String.toList).getD []
    let (s', out) := handle s text
    for j in out do send output j
    if s'.phase = .ended then return
    else serve input output s'

end Main
end GymLang

def main : IO Unit := do
  GymLang.Main.serve (← IO.getStdin) (← IO.getStdout) {}
