/-!
# TOML values

A TOML document as a tree. Only what a reader of settings can use is kept: a float and a date are
known to be there, and their values are not.
-/

namespace PacketDispatch

/-- A TOML value. Entries of a table stay in the order of the text, each name once. -/
inductive Toml
  | string (s : String)
  | integer (n : Int)
  | float
  | boolean (b : Bool)
  | datetime
  | array (items : List Toml)
  | table (entries : List (String × Toml))

end PacketDispatch
