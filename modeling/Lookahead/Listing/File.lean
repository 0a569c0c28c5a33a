import Lookahead.Listing
import Lookahead.Session

/-!
# Listings in files

A listing is written to a file after a scan and loaded from it for a later parse.
-/

namespace Lookahead

namespace Listing

/-- Write the listing of a scan to a file. -/
def write (path : Path) (s : Scan) : ExceptT ListingError Logged Unit := do
  match (← get).files.write path (render s) with
  | .ok files =>
    modify fun session => { session with files }
    Session.success .listingWritten "Token listing written"
      [("path", path), ("tokens", toString s.tokens.length)]
  | .error fault =>
    let e := ListingError.access path fault.text
    Session.error e.code e.message
    throw e

/-- Load the parser input of a listing in a file. -/
def load (path : Path) : ExceptT ListingError Logged (List InputSymbol) := do
  match (← get).files.readText path with
  | .error fault => throw (.access path fault.text)
  | .ok content =>
    match read content with
    | .ok symbols =>
      Session.success .listingLoaded "Token listing loaded"
        [("path", path), ("symbols", toString symbols.length)]
      return symbols
    | .error e =>
      Session.error e.code e.message [("path", path)]
      throw e

end Listing

end Lookahead
