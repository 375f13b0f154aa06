import AppServiceOperator.Json.Basic
/-!
# Merge patches

A merge patch that is an object changes the members it names: a null removes the member, any
other value is merged into it. A target that is no object counts as an empty one, and a patch
that is no object replaces the target.
-/
namespace AppServiceOperator.Json

mutual
/-- The target after the patch. -/
def mergePatch (target : Json) : Json → Json
  | .obj ps => .obj (mergeMembers (target.obj?.getD []) ps)
  | patch => patch

/-- The members of the target after the members of the patch, one after the other. -/
def mergeMembers (target : Members) : List (String × Json) → Members
  | [] => target
  | (k, .null) :: ps => mergeMembers (Dictionary.erase k target) ps
  | (k, v) :: ps => mergeMembers (Dictionary.insert k (mergePatch ((Dictionary.get? target k).getD .null) v) target) ps
end

end AppServiceOperator.Json
