import ApiBlueprint.Server.Session
import ApiBlueprint.Text.Blank

/-! Messages on a byte stream: a header that tells the length, a blank line, and the body. -/
namespace ApiBlueprint.Frame
open Json

/-- Every message names the version of the protocol. -/
def body (members : Value) : String :=
  match members with
  | .object ms => (Value.object (Members.insert "jsonrpc" (.string "2.0") ms)).compact
  | v => v.compact

def encode (message : Value) : String :=
  let text := body message
  "Content-Length: " ++ toString text.utf8ByteSize ++ "\r\n\r\n" ++ text

/-- The length a header line gives, if it is the one that does. -/
def contentLength? (line : String) : Option Nat :=
  match line.toList.span (· ≠ ':') with
  | (name, _ :: value) =>
    let digits := Text.trim value
    if (String.ofList name).toLower = "content-length" ∧ digits ≠ [] ∧ digits.all Char.isDigit then
      some (digits.foldl (fun n d => n * 10 + digitValue d) 0)
    else none
  | (_, []) => none

def ofReply (reply : Reply) : List String :=
  (reply.notices.map Notice.toValue ++ (reply.response.map Response.toValue).toList).map encode

/-- Take in the body of one frame. A body that is no JSON is passed over. -/
def handle (programs : Programs) (s : Session) (bytes : List UInt8) :
    Option (Session × List String) :=
  match (Text.Utf8.decode? bytes).map parse with
  | some (.ok v) => (s.handle programs (.ofValue v)).map fun (s, reply) => (s, ofReply reply)
  | _ => some (s, [])

end ApiBlueprint.Frame
