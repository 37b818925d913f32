import Rulebook.Document.Tree

/-!
# A small invoice

Two items with attributes, a comment, and a note with a language: one node of almost every kind.
-/

namespace Rulebook

private def invoiceItem (sku qty content : String) : Tree :=
  .element (.plain "item") [⟨.plain "sku", sku⟩, ⟨.plain "qty", qty⟩] [.text content]

def invoice : Document :=
  ⟨[.element (.plain "invoice") []
    [invoiceItem "A1" "2" "Widget",
     invoiceItem "B2" "0" "Gadget",
     .comment " audit ",
     .element (.plain "note") [⟨⟨some "xml", some xmlNamespace, "lang"⟩, "en"⟩] [.text "paid"]]]⟩

end Rulebook
