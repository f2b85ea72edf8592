/-!
# Byte offsets in a text

The width of a text is the number of bytes of its UTF-8 form, and an offset counts such bytes. A
text can be cut only between two characters, so a cut fails where an offset falls inside one.
-/
namespace SocketRelay.Text

def width : List Char → Nat
  | [] => 0
  | c :: cs => c.utf8Size + width cs

def dropBytes? : Nat → List Char → Option (List Char)
  | 0, cs => some cs
  | _ + 1, [] => none
  | n + 1, c :: cs => if c.utf8Size ≤ n + 1 then dropBytes? (n + 1 - c.utf8Size) cs else none

def takeBytes? : Nat → List Char → Option (List Char)
  | 0, _ => some []
  | _ + 1, [] => none
  | n + 1, c :: cs =>
    if c.utf8Size ≤ n + 1 then (takeBytes? (n + 1 - c.utf8Size) cs).map (c :: ·) else none

def slice? (start stop : Nat) (cs : List Char) : Option (List Char) :=
  (dropBytes? start cs).bind (takeBytes? (stop - start))

end SocketRelay.Text
