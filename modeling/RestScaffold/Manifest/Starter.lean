/-! # The starter manifest -/
namespace RestScaffold

/-- The lines of the manifest that a new project starts with. -/
def starterLines : List String := [
  "# crudgen manifest",
  "#",
  "# Each [models.<Name>] table describes one model. Fields are generated in",
  "# the order they are listed; `tag` is the JSON key and defaults to the",
  "# lowercased field name.",
  "",
  "[project]",
  "output = \"api/rest\"",
  "router = \"combined\"",
  "",
  "[plurals]",
  "# Person = \"People\"",
  "",
  "[models.User]",
  "table = \"users\"",
  "fields = [",
  "    \x7b name = \"ID\", type = \"uint\", tag = \"id\" \x7d,",
  "    \x7b name = \"Name\", type = \"string\", tag = \"name\" \x7d,",
  "    \x7b name = \"Email\", type = \"string\", tag = \"email\" \x7d,",
  "    \x7b name = \"CreatedAt\", type = \"timestamp\", tag = \"created_at\" \x7d,",
  "    \x7b name = \"UpdatedAt\", type = \"timestamp\", tag = \"updated_at\" \x7d,",
  "]",
  "",
  "[models.Post]",
  "table = \"posts\"",
  "fields = [",
  "    \x7b name = \"ID\", type = \"uint\", tag = \"id\" \x7d,",
  "    \x7b name = \"Content\", type = \"string\", tag = \"content\" \x7d,",
  "    \x7b name = \"AuthorId\", type = \"uint\", tag = \"author_id\" \x7d,",
  "    \x7b name = \"TimeStamp\", type = \"timestamp\", tag = \"timestamp\" \x7d,",
  "]",
  ""]

def starterManifest : String := String.intercalate "\n" starterLines

end RestScaffold
