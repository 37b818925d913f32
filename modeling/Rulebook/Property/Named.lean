import Rulebook.Text.Ranges

/-!
# Properties by name

Sets of characters under the names that patterns know them by.  The sets are those of edition 16.0
of the character database.  Names are compared without case, blanks, `_` and `-`, and without an
`is` in front.
-/

namespace Rulebook.Property

open Text

/-- a set of characters and its names, which are plain -/
structure Named where
  names : List String
  ranges : Ranges

/-- small letters, without what does not count in a name -/
def significant (cs : List Char) : List Char :=
  (cs.filter fun c => c.toNat < 128 && c != ' ' && c != '_' && c != '-').map Char.toLower

/-- a name as it is compared; `isc` is a name of its own and not `is` in front of `c` -/
def plainName (name : String) : String :=
  match name.toList with
  | i :: s :: rest =>
    if i.toLower == 'i' && s.toLower == 's' then
      if significant rest == ['c'] then "isc" else String.ofList (significant rest)
    else String.ofList (significant (i :: s :: rest))
  | cs => String.ofList (significant cs)

/-- the set with a plain name -/
def find? (table : List Named) (plain : String) : Option Ranges :=
  (table.find? fun p => p.names.contains plain).map Named.ranges

end Rulebook.Property
