namespace Conform.Output

inductive Style
  | blue
  | brightBlue
  | green
  | bold
  | boldRed

namespace Style

def code : Style → String
  | .blue => "34"
  | .brightBlue => "94"
  | .green => "32"
  | .bold => "1"
  | .boldRed => "1;31"

def start (style : Style) : String := "\x1b[" ++ style.code ++ "m"

-- Ends all styles.
def reset : String := "\x1b[0m"

-- A text to be shown in a style begins the style anew wherever it ends all styles itself.
def renew (style : Style) : List Char → List Char
  | [] => []
  | '\x1b' :: '[' :: '0' :: 'm' :: rest => reset.toList ++ style.start.toList ++ renew style rest
  | c :: rest => c :: renew style rest

def apply (style : Style) (text : String) : String := style.start ++ .ofList (style.renew text.toList) ++ reset

end Style
end Conform.Output
