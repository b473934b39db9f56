import HouseStyle.Language.Catalogue
import HouseStyle.Text.Path

namespace HouseStyle

/-!
# Detecting a language

A file's language is decided by its extension, whatever its letter case. Only
ASCII letters are folded: no other letter folds to one that an extension holds.
-/

/-- The language of a path. -/
def Language.ofPath? (path : String) : Option Language :=
  ofExtension? (String.ofList
    ((Path.ofString path).extension.toList.map Char.toLower))

end HouseStyle
