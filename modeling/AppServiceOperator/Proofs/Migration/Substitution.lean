import AppServiceOperator.Migration.Script
import AppServiceOperator.Proofs.Text.Encoding
import AppServiceOperator.Proofs.Text.Pieces
/-!
# The user in the script

A placeholder that is left in the script fails only inside the database. `user_put_in` is that none is left,
however the occurrences in the file touch each other or lie in one another, and that nothing but them is
changed. The first is not true of every user: one with braces, or one of nothing but characters of the
placeholder, can make up a placeholder with what stands around it.
-/
namespace AppServiceOperator.Script

/-- A user that can be told from every part of the placeholder, as that of the operator can. -/
structure PlainUser (user : String) : Prop where
  noOpening : '\x7b' ∉ user.toList
  noClosing : '\x7d' ∉ user.toList
  other : ∃ c ∈ user.toList, c ∉ placeholder.toList

theorem placeholder_ne_nil : placeholder.toList ≠ [] := by decide

theorem plainUser_default : PlainUser ({} : Desired.Credentials).user where
  noOpening := by decide
  noClosing := by decide
  other := ⟨'k', by decide, by decide⟩

/-- The placeholder begins and ends with a brace. -/
theorem PlainUser.separates {user : String} (plain : PlainUser user) :
    Text.Separates placeholder.toList user.toList where
  head := ⟨'\x7b', by decide, plain.noOpening⟩
  last := ⟨'\x7d', by decide, plain.noClosing⟩
  other := plain.other

theorem toList_body_ofText (text user : String) : (ofText text user).body.toList =
    user.toList.intercalate (Text.pieces placeholder.toList text.toList) :=
  String.toList_ofList

theorem ofFile_eq {content : FileContent} {text : String} (readable : content.text = .ok text)
    (path user : String) : ofFile path content user = .ok (ofText text user) := by
  rw [ofFile, readable]

theorem text_encode (text : String) : (FileContent.bytes (Text.Utf8.encode text)).text = .ok text := by
  rw [FileContent.text, Text.Utf8.decode_encode]

/-- Every text is that of a file, and the script of a file with that text is the text with the user in place
of all placeholders: there is just one way to cut the text at its placeholders, from left to right; joined by
the placeholder the pieces are the text, and joined by the user they are the script, in which there is no
placeholder. -/
theorem user_put_in {user : String} (plain : PlainUser user) (text : String) :
    (FileContent.bytes (Text.Utf8.encode text)).text = .ok text ∧
    ∀ (path : String) (content : FileContent), content.text = .ok text →
      ∃ script pieces, ofFile path content user = .ok script ∧ script.name = fileName ∧
        (∀ ps, Text.CutAt placeholder.toList text.toList ps ↔ ps = pieces) ∧
        placeholder.toList.intercalate pieces = text.toList ∧
        script.body.toList = user.toList.intercalate pieces ∧
        ¬ placeholder.toList <:+: script.body.toList := by
  refine ⟨text_encode text, fun path content readable => ?_⟩
  have cut := Text.cutAt_pieces placeholder_ne_nil text.toList
  refine ⟨_, _, ofFile_eq readable path user, rfl, fun _ => Text.cutAt_iff placeholder_ne_nil,
    cut.intercalate_eq, toList_body_ofText text user, ?_⟩
  rw [toList_body_ofText]
  exact Text.not_infix_intercalate plain.separates cut.ne_nil (cut.not_infix placeholder_ne_nil)

/-- A placeholder inside of another one: the inner one is replaced, and what is left of the outer one is none. -/
theorem user_put_in_nested : ∃ (user text : String) (script : Script), PlainUser user ∧
    text = "\x7b\x7bDB_\x7b\x7bDB_USERNAME\x7d\x7dUSERNAME\x7d\x7d" ∧
    ofFile "db" (.bytes (Text.Utf8.encode text)) user = .ok script ∧
    script.body = "\x7b\x7bDB_lukeUSERNAME\x7d\x7d" ∧ ¬ placeholder.toList <:+: script.body.toList := by
  let text := "\x7b\x7bDB_\x7b\x7bDB_USERNAME\x7d\x7dUSERNAME\x7d\x7d"
  obtain ⟨readable, reads⟩ := user_put_in plainUser_default text
  obtain ⟨script, pieces, read, -, unique, -, joined, absent⟩ := reads "db" _ readable
  have cut : pieces = Text.pieces placeholder.toList text.toList :=
    ((unique _).1 (Text.cutAt_pieces placeholder_ne_nil _)).symm
  have body : script.body = "\x7b\x7bDB_lukeUSERNAME\x7d\x7d" := by
    rw [← String.toList_inj, joined, cut]
    decide
  exact ⟨_, text, script, plainUser_default, rfl, read, body, absent⟩

end AppServiceOperator.Script
