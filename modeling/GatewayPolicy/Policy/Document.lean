import GatewayPolicy.Policy.Xml
/-!
# Policy documents

A document holds the sections compiled from one declaration.
-/

namespace GatewayPolicy

/-- Where a document comes from. -/
structure Metadata where
  sourceDeclaration : String
  compilerVersion : String
  deriving DecidableEq, Repr

/-- The version that compiled documents carry. -/
def currentVersion : String := "0.1.0"

/-- The metadata of a document compiled from the named declaration. -/
def Metadata.forDeclaration (name : String) : Metadata := ⟨name, currentVersion⟩

/-- The sections of a policy, in the order of the section methods. -/
structure Document where
  sections : List Fragment
  metadata : Metadata
  deriving DecidableEq, Repr

namespace Document

/-- The tag of the root element. -/
def rootTag : String := "policies"

/-- The first section with a tag. -/
def section? (d : Document) (tag : String) : Option Fragment := d.sections.find? fun s => s.tag == tag

/-- The tags of the sections. -/
def sectionTags (d : Document) : List String := d.sections.map Fragment.tag

/-- The document as one element. -/
def toFragment (d : Document) : Fragment := (Fragment.empty rootTag).withChildren d.sections

/-- The document as XML text. -/
def toXml (d : Document) : String := Xml.render d.toFragment

end Document

end GatewayPolicy
