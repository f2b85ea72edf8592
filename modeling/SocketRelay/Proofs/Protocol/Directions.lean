import SocketRelay.Proofs.Protocol.Framing

/-!
# Requests and events apart

Requests are read under long field names or short ones, and events are written under the short ones;
so the envelope of an event is one that a request may have. What keeps the two directions apart are
the names of methods, which are looked up before any argument is looked at. The envelope of a
request is none that an event may have.
-/
namespace SocketRelay.Protocol
open Bson (Document)

theorem Event.ofName?_method (e : Event) : Method.ofName? e.method = none := by
  cases e <;> rfl

theorem Request.ofDocument_event (e : Event) :
    Request.ofDocument e.document = .error (.unknownMethod e.method) := by
  have hmethod : (e.document.get? "method" <|> e.document.get? "m") = some (.string e.method) := by
    simp [Event.document, Document.get?]
  have hargs : (e.document.get? "args" <|> e.document.get? "a") = some (.array e.arguments) := by
    simp [Event.document, Document.get?]
  unfold ofDocument
  rw [hmethod, hargs]
  dsimp only [methodName, argumentList, Bind.bind, Except.bind]
  rw [e.ofName?_method]

theorem Event.ofDocument_request (r : Request) :
    Event.ofDocument r.document = .error (.missingField "m") := by
  have hm : r.document.get? "m" = none := by
    simp [Request.document, Document.get?]
  unfold ofDocument
  rw [hm]
  rfl

/-- What was written for an event is no request, whatever it carries and whatever follows it. -/
theorem Request.decode_event {e : Event} {frame : Bytes} (h : e.encode = .ok frame) (rest : Bytes) :
    Request.decode (frame ++ rest) = .error (.unknownMethod e.method) := by
  have hread := readDocument_message Event.plainKey_m Event.plainKey_a e.written_arguments h rest
  unfold decode
  rw [hread]
  exact ofDocument_event e

/-- What was written for a request is no event, whatever it carries and whatever follows it. -/
theorem Event.decode_request {r : Request} {frame : Bytes} (h : r.encode = .ok frame)
    (rest : Bytes) : Event.decode (frame ++ rest) = .error (.missingField "m") := by
  have hread :=
    readDocument_message Request.plainKey_method Request.plainKey_args r.written_arguments h rest
  unfold decode
  rw [hread]
  exact ofDocument_request r

end SocketRelay.Protocol
