/-!
# TOML values

What a TOML text tells: tables of values under keys.  Numbers with a fraction and dates are told
apart from other values, but what they say is not kept.

A table is made in one of four ways, and how it is made decides what may still be added to it: named
by a header, implied by the header of a table inside it, implied by a dotted key, or written on one
line in braces.
-/

namespace Lookahead

/-- How a table is made. -/
inductive Toml.Origin where
  | named | implied | dotted | inline
deriving DecidableEq, Repr

/-- A TOML value. -/
inductive Toml where
  | str (s : String)
  | int (n : Int)
  | bool (b : Bool)
  | fraction
  | moment
  | arr (items : List Toml)
  | table (origin : Toml.Origin) (fields : List (String × Toml))
  /-- Tables that share a header in double brackets, latest first. -/
  | tables (rows : List (List (String × Toml)))
deriving Inhabited

namespace Toml

/-- The fields of a table. -/
abbrev Fields := List (String × Toml)

/-- The value under a key. -/
def get? (key : String) (fs : Fields) : Option Toml := fs.lookup key

/-- Fields with the value under a key replaced, or added at the end. -/
def put (key : String) (v : Toml) : Fields → Fields
  | [] => [(key, v)]
  | (k, w) :: rest => if k == key then (key, v) :: rest else (k, w) :: put key v rest

/-- Change the table under a path of keys.  Tables on the way are made if there are none; a dotted
key may not lead into a table that was named, and none leads into a value or a table in braces. -/
def change (made : Origin) (f : Origin → Fields → Option (Origin × Fields)) :
    List String → Origin → Fields → Option (Origin × Fields)
  | [], origin, fs => f origin fs
  | key :: path, origin, fs =>
    match get? key fs with
    | none =>
      (change made f path made []).map fun (o, inner) => (origin, put key (.table o inner) fs)
    | some (.table .inline _) => none
    | some (.table o inner) =>
      if made == .dotted && o == .named then none
      else (change made f path o inner).map fun (o, inner) => (origin, put key (.table o inner) fs)
    | some (.tables (row :: rows)) =>
      (change made f path .named row).map fun (_, row) =>
        (origin, put key (.tables (row :: rows)) fs)
    | some _ => none

/-- Put a value under a key that is free.  The key is the last of a path, and a table that a dotted
key leads to takes values by dotted keys only. -/
def putNew (dotted : Bool) (key : String) (v : Toml) (origin : Origin) (fs : Fields) :
    Option (Origin × Fields) :=
  if dotted && origin != .dotted then none
  else if (get? key fs).isSome then none
  else some (origin, put key v fs)

/-- Open the table of a header: it is new, or was only implied by headers. -/
def openTable (key : String) (origin : Origin) (fs : Fields) : Option (Origin × Fields) :=
  match get? key fs with
  | none => some (origin, put key (.table .named []) fs)
  | some (.table .implied inner) => some (origin, put key (.table .named inner) fs)
  | some _ => none

/-- Open one more table of a header in double brackets. -/
def openRow (key : String) (origin : Origin) (fs : Fields) : Option (Origin × Fields) :=
  match get? key fs with
  | none => some (origin, put key (.tables [[]]) fs)
  | some (.tables rows) => some (origin, put key (.tables ([] :: rows)) fs)
  | some _ => none

end Toml

end Lookahead
