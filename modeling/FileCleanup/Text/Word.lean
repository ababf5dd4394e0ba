namespace FileCleanup.Text

/-!
Matching a keyword without regard to case.  Lower-casing a text by the full Unicode rules yields
an ASCII word without the letter k only from the ASCII letters of that word in either case: the
one other character with an ASCII lower case is the Kelvin sign.  ASCII case is therefore exact
for the keywords of this library.
-/

def matchesWord (word text : String) : Bool :=
  text.toList.map Char.toLower == word.toList

end FileCleanup.Text
