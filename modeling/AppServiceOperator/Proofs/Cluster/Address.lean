import AppServiceOperator.Proofs.Manifest.NormalForm
import AppServiceOperator.Proofs.Reconcile.Convergence
/-!
# The addresses of objects, and the requests about them

A namespace and a name of letters, digits, hyphens and dots make a path that goes into a request as it
is (`Addressed`), and no two resources share it that differ in kind, namespace or name
(`path_eq_iff`). So each call about such a resource is one request: `create_eq`, `fetch_eq` and
`patch_eq` say which, and what is made of the answer.
-/
namespace AppServiceOperator

namespace Text.Url

theorem checkPath_append {cs rest : List Char} (h : ∀ c ∈ cs, isPathChar c = true) :
    checkPath (cs ++ rest) = (cs ++ ·) <$> checkPath rest := by
  induction cs with
  | nil => simp
  | cons c cs ih =>
    obtain ⟨hc, hcs⟩ := List.forall_mem_cons.1 h
    have notFragment : c ≠ '#' := by
      rintro rfl
      exact absurd hc (by decide)
    have notQuery : c ≠ '?' := by
      rintro rfl
      exact absurd hc (by decide)
    rw [List.cons_append, checkPath, if_neg notFragment, if_neg notQuery, if_pos hc, ih hcs]
    cases checkPath rest <;> rfl

theorem isPathChar_slash : ∀ c ∈ ("/" : String).toList, isPathChar c = true := by
  have hall : ("/" : String).toList.all isPathChar = true := by decide
  exact List.all_eq_true.1 hall

/-- The target is not too long. -/
def Fits (target : String) : Prop := target.utf8ByteSize < targetLimit

instance (target : String) : Decidable (Fits target) := inferInstanceAs (Decidable (_ < _))

theorem Fits.of_le {s t : String} (h : Fits t) (hle : s.utf8ByteSize ≤ t.utf8ByteSize) : Fits s :=
  Nat.lt_of_le_of_lt hle h

/-- A target with nothing to object to is taken as it is. -/
theorem target_append {path query : String} (hp : ∀ c ∈ path.toList, isPathChar c = true)
    (hq : checkPath query.toList = .ok query.toList) (fits : Fits (path ++ query)) :
    target (path ++ query) = .ok (path ++ query) := by
  have hchecked : checkPath (path ++ query).toList = .ok (path ++ query).toList := by
    rw [String.toList_append, checkPath_append hp, hq]
    rfl
  unfold target
  rw [if_neg (Nat.not_le.2 fits), hchecked]
  change Except.ok (String.ofList (path ++ query).toList) = _
  rw [String.ofList_toList]

end Text.Url

/-- A text of letters, digits, hyphens and dots, of one at least. -/
def Text.IsDns (s : String) : Prop :=
  s ≠ "" ∧ ∀ c ∈ s.toList, c.isAlphanum = true ∨ c = '-' ∨ c = '.'

instance (s : String) : Decidable (Text.IsDns s) :=
  decidable_of_iff (s ≠ "" ∧ s.toList.all fun c => c.isAlphanum || c = '-' || c = '.') (by
    simp only [Text.IsDns, List.all_eq_true, Bool.or_eq_true, decide_eq_true_eq, or_assoc])

namespace Text.IsDns

variable {s : String}

theorem isPathChar (h : IsDns s) : ∀ c ∈ s.toList, Url.isPathChar c = true := by
  intro c hc
  rcases h.2 c hc with letter | rfl | rfl
  · change ((decide (c.val ≥ 'A'.val ∧ c.val ≤ 'Z'.val) || c.val ≥ 'a'.val && c.val ≤ 'z'.val) ||
      c.val ≥ '0'.val && c.val ≤ '9'.val) = true at letter
    simp only [Bool.or_eq_true, Bool.and_eq_true, decide_eq_true_eq, ge_iff_le,
      UInt32.le_iff_toNat_le] at letter
    simp only [Url.isPathChar, Bool.or_eq_true, Bool.and_eq_true, decide_eq_true_eq, Char.toNat]
    have bounds : ('A'.val.toNat = 65 ∧ 'Z'.val.toNat = 90) ∧ ('a'.val.toNat = 97 ∧ 'z'.val.toNat = 122) ∧
        '0'.val.toNat = 48 ∧ '9'.val.toNat = 57 := by decide
    omega
  · decide
  · decide

theorem slash_not_mem (h : IsDns s) : '/' ∉ s.toList := by
  intro hmem
  rcases h.2 _ hmem with letter | heq | heq
  · exact absurd letter (by decide)
  · exact absurd heq (by decide)
  · exact absurd heq (by decide)

end Text.IsDns

/-- What follows the last slash can be told from what goes before it. -/
theorem append_slash_inj {a b c d : String} (hb : '/' ∉ b.toList) (hd : '/' ∉ d.toList) :
    a ++ "/" ++ b = c ++ "/" ++ d ↔ a = c ∧ b = d := by
  -- the part behind the slash cannot begin earlier on one side, as it would hold the slash of the other
  have overlap {middle back back' : List Char} (h : '/' :: back = middle ++ '/' :: back')
      (hback : '/' ∉ back) : middle = [] ∧ back = back' := by
    cases middle with
    | nil => exact ⟨rfl, (List.cons.inj h).2⟩
    | cons m middle =>
      have hmem : '/' ∈ back := by
        rw [(List.cons.inj h).2]
        simp
      exact absurd hmem hback
  constructor
  · intro h
    have hlist : a.toList ++ '/' :: b.toList = c.toList ++ '/' :: d.toList := by
      simpa [← String.toList_inj] using h
    rw [← String.toList_inj, ← @String.toList_inj b]
    rcases List.append_eq_append_iff.1 hlist with ⟨middle, hc, htail⟩ | ⟨middle, ha, htail⟩
    · obtain ⟨rfl, hbd⟩ := overlap htail hb
      exact ⟨by simpa using hc.symm, hbd⟩
    · obtain ⟨rfl, hdb⟩ := overlap htail hd
      exact ⟨by simpa using ha, hdb.symm⟩
  · rintro ⟨rfl, rfl⟩
    rfl

/-! ## Paths -/

namespace Kind

/-- No two kinds share the last part of their path. -/
theorem plural_injective {k l : Kind} (h : k.api.plural = l.api.plural) : k = l := by
  revert h
  cases k <;> cases l <;> decide

theorem slash_not_mem_plural (k : Kind) : '/' ∉ k.api.plural.toList := by
  cases k <;> decide

/-- What goes before the namespace in the path of a kind. -/
def root (k : Kind) : String :=
  (if k.api.group = "" then "/api/" else "/apis/") ++ k.api.apiVersion ++ "/namespaces/"

theorem path_eq (k : Kind) (ns : String) : k.api.path ns = k.root ++ ns ++ "/" ++ k.api.plural := by
  rfl

theorem isPathChar_root (k : Kind) : ∀ c ∈ k.root.toList, Text.Url.isPathChar c = true := by
  have hall : k.root.toList.all Text.Url.isPathChar = true := by cases k <;> decide
  exact List.all_eq_true.1 hall

theorem isPathChar_plural (k : Kind) : ∀ c ∈ k.api.plural.toList, Text.Url.isPathChar c = true := by
  have hall : k.api.plural.toList.all Text.Url.isPathChar = true := by cases k <;> decide
  exact List.all_eq_true.1 hall

end Kind

namespace ManagedResource

variable {q r : ManagedResource}

/-- The path of the objects of the kind in the namespace. -/
def collection (r : ManagedResource) : String := r.kind.api.path (r.ns.getD "")

/-- The path of the object. -/
def path (r : ManagedResource) : String := r.collection ++ "/" ++ r.name

/-- There is a namespace and a name for a path. -/
structure Addressed (r : ManagedResource) : Prop where
  ns : ∃ ns, r.metadata.ns = some ns ∧ Text.IsDns ns
  name : ∃ name, r.metadata.name = some name ∧ Text.IsDns name

namespace Addressed

theorem exists_eq (hr : r.Addressed) :
    ∃ ns name, r.ns = some ns ∧ r.metadata.name = some name ∧ r.name = name ∧ Text.IsDns ns ∧
      Text.IsDns name ∧ r.path = r.kind.root ++ ns ++ "/" ++ r.kind.api.plural ++ "/" ++ name := by
  obtain ⟨ns, hns, dnsNs⟩ := hr.ns
  obtain ⟨name, hname, dnsName⟩ := hr.name
  have hr : r.name = name := by
    unfold ManagedResource.name ObjectMeta.anyName
    rw [hname]
    rfl
  refine ⟨ns, name, hns, hname, hr, dnsNs, dnsName, ?_⟩
  unfold path collection ManagedResource.ns
  rw [hns, hr, Option.getD_some, Kind.path_eq]

/-- Two resources share their path exactly if they have the same kind, namespace and name. -/
theorem path_eq_iff (hq : q.Addressed) (hr : r.Addressed) :
    q.path = r.path ↔ Simulation.ObjectKey.ofResource q = .ofResource r := by
  obtain ⟨ns, name, hns, -, hname, dnsNs, dnsName, hpath⟩ := hq.exists_eq
  obtain ⟨ns', name', hns', -, hname', dnsNs', dnsName', hpath'⟩ := hr.exists_eq
  rw [hpath, hpath', append_slash_inj dnsName.slash_not_mem dnsName'.slash_not_mem,
    append_slash_inj q.kind.slash_not_mem_plural r.kind.slash_not_mem_plural]
  simp only [Simulation.ObjectKey.ofResource, Simulation.ObjectKey.mk.injEq, hns, hns', hname, hname',
    Option.getD_some]
  constructor
  · rintro ⟨⟨hfront, hplural⟩, rfl⟩
    have hkind := Kind.plural_injective hplural
    rw [hkind, String.append_right_inj] at hfront
    exact ⟨by rw [hkind], hfront, rfl⟩
  · rintro ⟨hkind, rfl, rfl⟩
    rw [Kind.name_injective hkind]
    exact ⟨⟨rfl, rfl⟩, rfl⟩

theorem isPathChar_collection (hr : r.Addressed) :
    ∀ c ∈ r.collection.toList, Text.Url.isPathChar c = true := by
  obtain ⟨ns, hns, dns⟩ := hr.ns
  intro c hc
  unfold collection ManagedResource.ns at hc
  rw [hns, Option.getD_some, Kind.path_eq] at hc
  simp only [String.toList_append, List.mem_append] at hc
  rcases hc with ((hc | hc) | hc) | hc
  · exact r.kind.isPathChar_root c hc
  · exact dns.isPathChar c hc
  · exact Text.Url.isPathChar_slash c hc
  · exact r.kind.isPathChar_plural c hc

theorem isPathChar_path (hr : r.Addressed) : ∀ c ∈ r.path.toList, Text.Url.isPathChar c = true := by
  obtain ⟨ns, name, -, -, hname, -, dns, -⟩ := hr.exists_eq
  intro c hc
  unfold path at hc
  rw [hname] at hc
  simp only [String.toList_append, List.mem_append] at hc
  rcases hc with (hc | hc) | hc
  · exact hr.isPathChar_collection c hc
  · exact Text.Url.isPathChar_slash c hc
  · exact dns.isPathChar c hc

end Addressed

/-! ## Requests -/

/-- The request to create the object. -/
def postRequest (r : ManagedResource) : Request where
  method := .post
  target := r.collection ++ Client.ownedQuery
  contentType := some Client.jsonType
  body := some r.toJson

/-- The request for the object. -/
def getRequest (r : ManagedResource) : Request where
  method := .get
  target := r.path

/-- The request to merge a patch into the object. -/
def patchRequest (r : ManagedResource) (body : Json) : Request where
  method := .patch
  target := r.path ++ Client.ownedQuery
  contentType := some Client.mergePatchType
  body := some body

namespace Addressed

theorem resourcePath_eq (hr : r.Addressed) : Client.resourcePath r = .ok r.collection := by
  obtain ⟨ns, hns, -⟩ := hr.ns
  unfold Client.resourcePath collection ManagedResource.ns
  rw [hns]
  rfl

theorem objectPath_eq (hr : r.Addressed) : Client.objectPath r.collection r.name = .ok r.path := by
  obtain ⟨ns, name, -, -, hname, -, dns, -⟩ := hr.exists_eq
  unfold Client.objectPath path
  rw [hname, if_neg dns.1]

/-- To create an object is one request, with the whole manifest. -/
theorem create_eq (hr : r.Addressed) (proper : r.Proper)
    (fits : Text.Url.Fits (r.collection ++ Client.ownedQuery)) :
    Client.create r = .call (.send r.postRequest) fun response =>
      .done ((Client.classified r.kind.name r.name
        (Client.objectOf Client.dynamicObject? response)).map fun _ => ()) := by
  have hrequest : Client.postRequest r.collection Client.ownedQuery r.toJson = .ok r.postRequest := by
    unfold Client.postRequest Client.checked
    rw [Text.Url.target_append hr.isPathChar_collection rfl fits]
    rfl
  simp only [Client.create, proper.dynamicManifest, hr.resourcePath_eq, hrequest]
  rfl

/-- To look at an object is one request. -/
theorem fetch_eq (hr : r.Addressed) (fits : Text.Url.Fits r.path) :
    Client.fetch r = .call (.send r.getRequest) fun response =>
      .done (Client.classified r.kind.name r.name
        (Client.unlessMissing (Client.objectOf Client.dynamicObject? response))) := by
  have hrequest : Client.getRequest r.collection r.name = .ok r.getRequest := by
    have htarget : Text.Url.target r.path = .ok r.path := by
      have bare : Text.Url.target (r.path ++ "") = .ok (r.path ++ "") :=
        Text.Url.target_append hr.isPathChar_path rfl (by rwa [String.append_empty])
      rwa [String.append_empty] at bare
    simp only [Client.getRequest, hr.objectPath_eq, bind, Except.bind, Client.checked, htarget]
    rfl
  simp only [Client.fetch, hr.resourcePath_eq, hrequest]
  rfl

/-- A path that is too long is not asked for. -/
theorem fetch_of_not_fits (hr : r.Addressed) (long : ¬ Text.Url.Fits r.path) :
    Client.fetch r = .done (.error (.client (.request (.target .tooLong)))) := by
  have htarget : Text.Url.target r.path = .error .tooLong := if_pos (Nat.not_lt.1 long)
  have hrequest : Client.getRequest r.collection r.name = .error (.request (.target .tooLong)) := by
    simp only [Client.getRequest, hr.objectPath_eq, bind, Except.bind, Client.checked, htarget]
  simp only [Client.fetch, hr.resourcePath_eq, hrequest]
  rfl

/-- To patch an object is one request, with the patch as it is. -/
theorem patch_eq (hr : r.Addressed) (fits : Text.Url.Fits (r.path ++ Client.ownedQuery)) (body : Json) :
    Client.patch r body = .call (.send (r.patchRequest body)) fun response =>
      .done ((Client.classified r.kind.name r.name
        (Client.objectOf Client.dynamicObject? response)).map fun _ => ()) := by
  have hrequest : Client.patchRequest r.collection r.name "" Client.ownedQuery body =
      .ok (r.patchRequest body) := by
    have htarget := Text.Url.target_append hr.isPathChar_path rfl fits
    simp only [Client.patchRequest, hr.objectPath_eq, bind, Except.bind, String.append_empty, Client.checked,
      htarget]
    rfl
  simp only [Client.patch, hr.resourcePath_eq, hrequest]
  rfl

end Addressed

end ManagedResource

end AppServiceOperator
