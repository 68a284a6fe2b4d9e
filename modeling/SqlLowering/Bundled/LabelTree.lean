import SqlLowering.Bundled.Table

/-!
# Label paths

Methods on hierarchical label paths, translated to the operators and functions of the label tree
extension. Label positions count from zero on both sides, so none is shifted. The longest common
ancestor is a static method of one to eight paths.
-/

namespace SqlLowering.Bundled

open ValueType

private def onPath (name : String) (params : List ValueType) (form : NativeForm) :
    Signature × NativeForm :=
  (⟨.member, ltree, name, params⟩, form)

private def commonAncestor (paths : Nat) : Signature × NativeForm :=
  (⟨.static, ltree, "LongestCommonAncestor", List.replicate paths ltree⟩, .function "lca")

def labelTreeTable : TranslationTable :=
  [ onPath "IsAncestorOf" [ltree] (.operator "@>"),
    onPath "IsDescendantOf" [ltree] (.operator "<@"),
    onPath "MatchesLQuery" [lquery] (.operator "~"),
    onPath "MatchesLTxtQuery" [ltxtquery] (.operator "@"),
    onPath "Subtree" [int32, int32] (.function "subltree"),
    onPath "Subpath" [int32] (.function "subpath"),
    onPath "Subpath" [int32, int32] (.function "subpath"),
    onPath "NLevel" [] (.function "nlevel"),
    onPath "Index" [ltree] (.function "index"),
    onPath "Index" [ltree, int32] (.function "index"),
    commonAncestor 1,
    commonAncestor 2,
    commonAncestor 3,
    commonAncestor 4,
    commonAncestor 5,
    commonAncestor 6,
    commonAncestor 7,
    commonAncestor 8 ]

def labelTreeModule : TranslationModule :=
  ⟨"LTree", "using LTree", [labelTreeTable.rule MethodCall.operands]⟩

end SqlLowering.Bundled
