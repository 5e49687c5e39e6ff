import EnumLowering.Native.Support

/-!
Native blocks as one text. All header sections come before all implementation
sections, each under a comment line that names its type and place.
-/

namespace EnumLowering

namespace Native

structure Section where
  title : String
  content : String

def Section.render (entry : Section) : String := "// " ++ entry.title ++ "\n" ++ entry.content

/-- Sections with an empty line between them. -/
def listing (sections : List Section) : String :=
  String.intercalate "\n" (sections.map Section.render)

def placeLabel (placement : Placement) (kind : String) : String :=
  match placement with
  | .inner => kind
  | .outer => kind ++ ", file scope"

def headerSection (typeName : String) (block : NativeBlock) : Section :=
  { title := typeName ++ " (" ++ placeLabel block.placement "header" ++ ")"
    content := block.header }

def implementationSection (typeName : String) (block : NativeBlock) : Section :=
  { title := typeName ++ " (" ++ placeLabel block.placement "implementation" ++ ")"
    content := block.implementation }

/-- Blocks with the names of the types they belong to, headers first. -/
def blockListing (blocks : List (String × NativeBlock)) : String :=
  listing (blocks.map (fun (name, block) => headerSection name block) ++
    blocks.map (fun (name, block) => implementationSection name block))

def supportText (typeName : String) (count : Nat) (options : Options) : String :=
  let support := enumSupport typeName count options
  listing <| [
      ("header", support.inner.header),
      ("header, file scope", support.outer.header),
      ("implementation", support.inner.implementation),
      ("implementation, file scope", support.outer.implementation)].map
    fun (label, content) => { title := typeName ++ " (" ++ label ++ ")", content }

end Native

mutual

/-- The native blocks of a type and of its member types, in order. -/
def TypeDeclaration.nativeBlocks : TypeDeclaration → List (String × NativeBlock)
  | .ofClass ⟨binding, members, _⟩ => Member.nativeBlocks binding.outputName members
  | .ofEnum ⟨binding, _, members, _⟩ => Member.nativeBlocks binding.outputName members

def Member.nativeBlocks (owner : String) : List Member → List (String × NativeBlock)
  | [] => []
  | .native block :: members => (owner, block) :: Member.nativeBlocks owner members
  | .type declaration :: members =>
      TypeDeclaration.nativeBlocks declaration ++ Member.nativeBlocks owner members
  | .method _ :: members => Member.nativeBlocks owner members
  | .field _ :: members => Member.nativeBlocks owner members

end

def CompilationUnit.nativeText (compilationUnit : CompilationUnit) : String :=
  Native.blockListing (compilationUnit.types.flatMap TypeDeclaration.nativeBlocks)

end EnumLowering
