/-! A run of characters is measured in bytes of its UTF-8 form and in UTF-16 code units.
Cuts are asked for in bytes and fall back to the last character boundary before them. -/
namespace ApiBlueprint.Text

/-- Length of the UTF-8 form. -/
def byteCount (text : List Char) : Nat := text.foldr (fun c n => c.utf8Size + n) 0

/-- Characters outside the basic plane take a surrogate pair. -/
def unitWidth (c : Char) : Nat := if c.toNat < 0x10000 then 1 else 2

/-- Length in UTF-16 code units, the measure of columns. -/
def unitCount (text : List Char) : Nat := text.foldr (fun c n => unitWidth c + n) 0

/-- The longest run of whole characters within the first `n` bytes. A cut inside a
character drops that character. -/
def takeBytes : Nat → List Char → List Char
  | _, [] => []
  | n, c :: rest => if c.utf8Size ≤ n then c :: takeBytes (n - c.utf8Size) rest else []

@[simp] theorem byteCount_nil : byteCount [] = 0 := rfl

@[simp] theorem byteCount_cons (c : Char) (text : List Char) :
    byteCount (c :: text) = c.utf8Size + byteCount text := rfl

@[simp] theorem unitCount_nil : unitCount [] = 0 := rfl

@[simp] theorem unitCount_cons (c : Char) (text : List Char) :
    unitCount (c :: text) = unitWidth c + unitCount text := rfl

end ApiBlueprint.Text
