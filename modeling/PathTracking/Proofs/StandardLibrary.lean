import PathTracking.Proofs.Failure
import PathTracking.StandardLibrary

/-!
# What the standard library reads

The document in a file is the one in its text, once that is decoded. Documents cannot be compared,
so that one is known by what is shown of it.
-/
namespace PathTracking

variable {content : Bytes} {text : List Char}

theorem Library.readDocument_of_decoded (decoded : Text.decodeFile content = .ok text) :
    Library.standard.readDocument content =
      (Yaml.parse 480 (Text.unifyLineEnds text)).mapError fun e => ⟨e.sort, e.message⟩ := by
  show Yaml.readDocument 480 content = _
  rw [Yaml.readDocument, decoded]

theorem Library.readDocument_of_shown {α : Type} {shown : Value → Option α} {a : α}
    (decoded : Text.decodeFile content = .ok text)
    (read : (Yaml.parse 480 (Text.unifyLineEnds text)).toOption.bind (shown ·.root) = some a) :
    ∃ document, Library.standard.readDocument content = .ok document ∧
      shown document.root = some a := by
  obtain ⟨document, parsed, same⟩ := Option.bind_eq_some_iff.mp read
  refine ⟨document, ?_, same⟩
  rw [readDocument_of_decoded decoded, toOption_eq_some_iff.mp parsed, mapError_ok]

end PathTracking
