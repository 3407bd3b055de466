import GrammarKit.Build
import GrammarKit.Descriptor.Printer
import GrammarKit.Style.Listing

/-!
# Reports of commands

What commands print, as data.
-/

namespace GrammarKit.CommandLine

/-- The headers of files; a file without a header has none. -/
def headersReport (headers : OrderedMap Text (Option Header)) : Json := .object [
  ("headers".toList, .object (headers.entries.map fun (file, header) =>
    (file, (header.map Header.data).getD .null)))]

/-- The files that are asked for and the others, by name. -/
structure FilterReport where
  qualifiers : List Text
  accepted : List Text := []
  rejected : List Text := []
  deriving DecidableEq, Repr

namespace FilterReport

def add (r : FilterReport) (kept : Bool) (name : Text) : FilterReport :=
  if kept then { r with accepted := r.accepted ++ [name] }
  else { r with rejected := r.rejected ++ [name] }

def ofBlobs (naming : Naming) (qualifiers : List Text) (bs : List Blob) : FilterReport :=
  let keeps := (Qualifiers.ofList qualifiers).chooses naming
  bs.foldl (fun r b => r.add (keeps b) b.name) { qualifiers }

def data (r : FilterReport) : Json := .object [
  ("qualifiers".toList, .texts r.qualifiers),
  ("accepted".toList, .texts r.accepted),
  ("rejected".toList, .texts r.rejected)]

end FilterReport

def stylesReport (entries : List Style.Entry) : Json := .object [
  ("styles".toList, .list (entries.map fun e => .object [
    ("path".toList, .text e.path),
    ("name".toList, .text e.name)]))]

def languagesReport (names : List Text) : Json := .object [("languages".toList, .texts names)]

def exportReport (language : Text) (header : Header) (d : Descriptor) : Json := .object [
  ("language".toList, .text language),
  ("header".toList, header.data),
  ("descriptor".toList, d.data)]

def builtFile (f : BuiltFile) : Json := .object [
  ("source".toList, .text f.source),
  ("output".toList, .text f.output),
  ("bytes_in".toList, .number f.bytesIn),
  ("bytes_out".toList, .number f.bytesOut)]

def reportProtocol : Nat := 1

def buildReport (r : BuildReport) : Json := .object [
  ("protocol".toList, .number reportProtocol),
  ("qualifiers".toList, .texts r.qualifiers),
  ("accepted".toList, .texts r.accepted),
  ("rejected".toList, .texts r.rejected),
  ("files".toList, .list (r.files.map builtFile))]

end GrammarKit.CommandLine
