import CMakeGen.Toolset.Basic

/-!
# The known toolsets

GCC and the drivers that take its flags, Clang, which differs from it in the shared libraries
of macOS alone, and Microsoft's compiler, whose static and import libraries have one naming.
-/

namespace CMakeGen.Toolset

/-- Whether a project builds a shared library. -/
def isShared (project : Option Project) : Bool :=
  match project with
  | some p => p.kind = .sharedLibrary
  | none => false

/-- The entry of a table of flags for an architecture, up to letter case. -/
def archFlag (table : List (String × String)) (architecture : String) : List String :=
  (table.lookup (Text.lowercase architecture)).toList

/-! ## GCC and Clang -/

/-- The name of a library as Unix linkers look for it; `suffix` is that of shared ones. -/
def unixLibraryName (suffix : Configuration → String) (p : Project) (settings : Configuration) :
    String :=
  "lib" ++ p.name ++ if p.kind = .sharedLibrary then suffix settings else ".a"

/-- The flags that GCC's driver and Clang's share; `shared` are those of a shared library. -/
def unixFlags (shared : Project → Configuration → List String) (project : Option Project)
    (settings : Configuration) : List String :=
  archFlag [("x86", "-m32"), ("x86_64", "-m64")] settings.architecture
    ++ (if settings.symbols = some false then ["-s"] else [])
    ++ (if settings.linkTimeOptimization then ["-flto"] else [])
    ++ match project with
      | some p => if p.kind = .sharedLibrary then shared p settings else []
      | none => []

def gccSuffix (_ : Configuration) : String := ".so"

/-- A shared library that records its own file name. -/
def gccSharedFlags (suffix : Configuration → String) (p : Project) (settings : Configuration) :
    List String :=
  ["-shared", "-Wl,-soname=" ++ unixLibraryName suffix p settings]

def gcc : Toolset where
  name := "gcc"
  title := "GccToolset"
  libraryName := unixLibraryName gccSuffix
  linkerFlags := unixFlags (gccSharedFlags gccSuffix)

def isMacos (settings : Configuration) : Bool := Text.lowercase settings.system = "macosx"

def clangSuffix (settings : Configuration) : String :=
  if isMacos settings then ".dylib" else ".so"

def clangSharedFlags (p : Project) (settings : Configuration) : List String :=
  if isMacos settings then
    ["-dynamiclib", "-Wl,-install_name,@rpath/" ++ unixLibraryName clangSuffix p settings]
  else gccSharedFlags clangSuffix p settings

def clang : Toolset where
  name := "clang"
  title := "ClangToolset"
  libraryName := unixLibraryName clangSuffix
  linkerFlags := unixFlags clangSharedFlags

/-! ## Microsoft -/

/-- Whether the last part of a path has an extension: a dot with something other than dots
before it. -/
def hasExtension (path : String) : Bool :=
  let part := (path.toList.reverse.takeWhile (· ≠ '/')).reverse
  (part.dropWhile (· = '.')).contains '.'

def msc : Toolset where
  name := "msc"
  title := "MscToolset"
  libraryName := fun p _ => p.name ++ ".lib"
  systemLink := fun entry => if hasExtension entry then entry else entry ++ ".lib"
  linkerFlags := fun project settings =>
    ["/NOLOGO"]
      ++ (if settings.symbols = some true then ["/DEBUG"] else [])
      ++ archFlag
        [("x86", "/MACHINE:X86"), ("x86_64", "/MACHINE:X64"), ("arm64", "/MACHINE:ARM64")]
        settings.architecture
      ++ (if settings.linkTimeOptimization then ["/LTCG"] else [])
      ++ (if isShared project then ["/DLL"] else [])

end CMakeGen.Toolset
