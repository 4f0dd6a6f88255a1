/-!
# Styled terminal text

A style is written as an opening code before the text and a reset after it. A text that already
holds resets would end the style early, so the opening code is repeated after each of them.
-/

namespace ScriptSpelling.Terminal

inductive Style where
  | green
  | yellow
  | cyan
  | bold
  | boldRed
  | boldYellow
deriving Repr, DecidableEq

def Style.parameters : Style → String
  | green => "32"
  | yellow => "33"
  | cyan => "36"
  | bold => "1"
  | boldRed => "1;31"
  | boldYellow => "1;33"

def Style.code (style : Style) : List Char := '\x1b' :: '[' :: style.parameters.toList ++ ['m']

def reset : List Char := ['\x1b', '[', '0', 'm']

/-- The text with `code` repeated after every reset in it. -/
def reopen (code : List Char) : List Char → List Char
  | '\x1b' :: '[' :: '0' :: 'm' :: rest => reset ++ code ++ reopen code rest
  | c :: rest => c :: reopen code rest
  | [] => []

/-- The text in the given style. When the terminal takes no codes, it is the text alone. -/
def paint (codes : Bool) (style : Style) (text : String) : String :=
  if codes then String.ofList (style.code ++ reopen style.code text.toList ++ reset) else text

end ScriptSpelling.Terminal
