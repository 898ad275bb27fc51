import OpenhabConfiguration.Library.BufferedWriter
import OpenhabConfiguration.Library.Charsets
import OpenhabConfiguration.Model.BuildFiles

/-!
# The writers under the builders

Each builder prints to a `PrintWriter` over a `BufferedWriter` over a `FileWriter`, and its
`finally` block flushes and closes the writer. The three of them are the writer of
`Library.BufferedWriter`: the constructor of `FileWriter` is the only call that throws, and
the result `true` is decided before the `finally` block.

`Jvm.writeFile` is a call of a builder with what it leaves in its file, where
`Jvm.buildFile` has only the text it prints. `Jvm.writeBytes` also has the encoding:
`FileWriter` is given no charset and takes the default one of the platform.
-/

set_option autoImplicit false

namespace OpenhabConfiguration.Model

open BufferedWriter

/-- A method that prints. -/
abbrev Printing (σ α : Type) := StateT (PrintWriter Char) (Method σ) α

/-- `printWriter.print(s)` -/
def printString {σ : Type} (disk : Disk) (s : String) : Printing σ Unit :=
  modify (PrintWriter.print disk s.toList)

/-- The method that prints the items.
SOURCE: buildItems.java:25-27 -/
def BuildItems.printFile (disk : Disk) : Printing BuildItems Unit := do
  let st ← (get : Method BuildItems BuildItems)
  printString disk st.groupHouse
  printString disk (← BuildItems.getGroupApartments)
  printString disk (← BuildItems.getBuildApartments)

/-- SOURCE: buildThings.java:26 -/
def BuildThings.printFile (disk : Disk) : Printing BuildThings Unit := do
  printString disk (BuildThings.print (← BuildThings.buildBridge))

/-- SOURCE: buildRules.java:19 -/
def BuildRules.printFile (disk : Disk) : Printing BuildRules Unit := do
  printString disk (← BuildRules.buildRules)

/-- SOURCE: buildSitemap.java:24 -/
def BuildSitemap.printFile (disk : Disk) : Printing BuildSitemap Unit := do
  printString disk (← BuildSitemap.buildSitemap)

/-- The frame of the four `build…File` methods, on a file with the contents `old`: the
result of the method, and the file afterwards. `return true` comes before the `finally`
block, and nothing asks the writer for its failures.
SOURCE: buildItems.java:22-37, buildThings.java:23-36, buildRules.java:16-29,
buildSitemap.java:21-34 -/
def writeFileOn {σ : Type} (disk : Disk) (old : Option String) (body : Printing σ Unit) :
    Method σ (Bool × Option String) :=
  if disk.opens then do
    let ((), w) ← body PrintWriter.new
    let w := PrintWriter.close disk (PrintWriter.flush disk w)
    return (true, some (String.ofList w.file))
  else return (false, old)

/-- A call of the method that builds `file`: its result, and what is in its file
afterwards. -/
def Jvm.writeFile (disk : Disk) (file : ConfigFile) (old : Option String) :
    Method Jvm (Bool × Option String) := fun jvm =>
  match file with
  | .items => do
      let (r, items) ← writeFileOn disk old (BuildItems.printFile disk) jvm.items
      return (r, { jvm with items := items })
  | .things => do
      let (r, things) ← writeFileOn disk old (BuildThings.printFile disk) jvm.things
      return (r, { jvm with things := things })
  | .rules => do
      let (r, rules) ← writeFileOn disk old (BuildRules.printFile disk) jvm.rules
      return (r, { jvm with rules := rules })
  | .sitemap => do
      let (r, sitemap) ← writeFileOn disk old (BuildSitemap.printFile disk) jvm.sitemap
      return (r, { jvm with sitemap := sitemap })

/-! ## The bytes of the file -/

/-- The charset of a platform, in which `FileWriter` writes. -/
inductive DefaultCharset where
  | utf8
  | iso88591
  | windows1252
deriving DecidableEq, Repr

/-- `FileWriter` encodes one character after the other. -/
def DefaultCharset.encode (charset : DefaultCharset) (text : List Char) : List UInt8 :=
  match charset with
  | .utf8 => Charsets.utf8 text
  | .iso88591 => text.map Charsets.latin1.encode
  | .windows1252 => text.map Charsets.windows1252.encode

/-- A call of the method that builds `file`, with the bytes that are in its file afterwards:
those of the characters that have reached `FileWriter`. -/
def Jvm.writeBytes (charset : DefaultCharset) (disk : Disk) (file : ConfigFile)
    (old : Option (List UInt8)) : Method Jvm (Bool × Option (List UInt8)) := do
  let (ok, contents) ← Jvm.writeFile disk file none
  return (ok, if ok then contents.map fun text => charset.encode text.toList else old)

end OpenhabConfiguration.Model
