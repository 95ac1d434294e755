set_option autoImplicit false

namespace GraphBrowser.Text

structure Position where
  line : Nat
  -- How many bytes of the line lie before the place.
  column : Nat
deriving DecidableEq, Repr

namespace Position

def start : Position := ⟨1, 0⟩

-- The place that many bytes into the character, or behind it if it ends a line.
def into (p : Position) (c : Char) (bytes : Nat) : Position :=
  if bytes = 0 then p
  else if c = '\n' then ⟨p.line + 1, 0⟩
  else { p with column := p.column + bytes }

def past (p : Position) (c : Char) : Position := p.into c c.utf8Size

def back (p : Position) (bytes : Nat) : Position := { p with column := p.column - bytes }

def describe (p : Position) : String :=
  "line " ++ toString p.line ++ " column " ++ toString p.column

end Position

end GraphBrowser.Text
