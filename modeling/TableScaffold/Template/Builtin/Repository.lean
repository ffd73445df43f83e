import TableScaffold.Template.Piece

/-!
# Built-in templates: repositories

The template of a file and the template of its snippet in the combined file, line
by line.  A template whose last line is empty ends with a line feed.
-/

namespace TableScaffold.Template.Builtin.Repository

open SlotName Piece

/-- The package, its imports, and the repository with its constructor. -/
def header : List (List Piece) := [
  line ["package postgres"],
  line [],
  line ["import ("],
  line ["\t\"context\""],
  line ["\t\"database/sql\""],
  line ["\t\"errors\""],
  line ["\t\"fmt\""],
  line [],
  line ["\t\"github.com/google/uuid\""],
  line ["\t\"github.com/jackc/pgx/v4/pgxpool\""],
  line ["\t\"github.com/opentracing/opentracing-go\""],
  line [],
  line ["\t\"", goModule, "/genproto/", protoPackage, "\""],
  line ["\t\"", goModule, "/models\""],
  line ["\t\"", goModule, "/pkg/helper\""],
  line ["\t\"", goModule, "/storage\""],
  line [")"],
  line [],
  line ["type ", entity, "Repo struct \x7b"],
  line ["\tdb *pgxpool.Pool"],
  line ["\x7d"],
  line [],
  line ["func New", entity, "Repo(db *pgxpool.Pool) storage.", entity, "RepoI \x7b"],
  line ["\treturn &", entity, "Repo\x7b"],
  line ["\t\tdb: db,"],
  line ["\t\x7d"],
  line ["\x7d"],
  line []]

/-- The statement that inserts a row. -/
def create : List (List Piece) := [
  line ["func (c *", entity, "Repo) Create(ctx context.Context, req *", protoPackage, ".Create",
    entity, "Request) (resp *", protoPackage, ".", entity, "PrimaryKey, err error) \x7b"],
  line [],
  line ["\tdbSpan, ctx := opentracing.StartSpanFromContext(ctx, \"storage.Create\")"],
  line ["\tdefer dbSpan.Finish()"],
  line [],
  line ["\tvar id = uuid.New()"],
  line [],
  line ["\tquery := \x60"],
  line ["\t\tINSERT INTO \"", table, "\" ("],
  line [insertColumns],
  line ["\t\t)"],
  line ["\t\tVALUES (", insertValues, ")"],
  line ["\t\x60"],
  line [],
  line ["\t_, err = c.db.Exec(ctx,"],
  line ["\t\tquery,"],
  line ["\t\tid,"],
  line [insertExecArgs],
  line ["\t)"],
  line [],
  line ["\tif err != nil \x7b"],
  line ["\t\treturn nil, err"],
  line ["\t\x7d"],
  line [],
  line ["\treturn &", protoPackage, ".", entity, "PrimaryKey\x7bId: id.String()\x7d, nil"],
  line ["\x7d"],
  line []]

/-- The statement that selects one row. -/
def getByKey : List (List Piece) := [
  line ["func (c *", entity, "Repo) GetByPKey(ctx context.Context, req *", protoPackage, ".",
    entity, "PrimaryKey) (resp *", protoPackage, ".", entity, ", err error) \x7b"],
  line [],
  line ["\tdbSpan, ctx := opentracing.StartSpanFromContext(ctx, \"storage.GetByPKey\")"],
  line ["\tdefer dbSpan.Finish()"],
  line [],
  line ["\tquery := \x60"],
  line ["\t\tSELECT"],
  line [selectColumns, ","],
  line ["\t\t\tTO_CHAR(created_at, 'YYYY-MM-DD HH24:MI:SS'),"],
  line ["\t\t\tTO_CHAR(updated_at, 'YYYY-MM-DD HH24:MI:SS')"],
  line ["\t\tFROM \"", table, "\""],
  line ["\t\tWHERE id = $1"],
  line ["\t\x60"],
  line [],
  line ["\tvar ("],
  line ["\t\tid        sql.NullString"],
  line [scanDeclarations],
  line ["\t\tcreatedAt sql.NullString"],
  line ["\t\tupdatedAt sql.NullString"],
  line ["\t)"],
  line [],
  line ["\terr = c.db.QueryRow(ctx, query, req.Id).Scan("],
  line ["\t\t&id,"],
  line [scanTargets],
  line ["\t\t&createdAt,"],
  line ["\t\t&updatedAt,"],
  line ["\t)"],
  line [],
  line ["\tif err != nil \x7b"],
  line ["\t\treturn resp, err"],
  line ["\t\x7d"],
  line [],
  line ["\tresp = &", protoPackage, ".", entity, "\x7b"],
  line ["\t\tId:        id.String,"],
  line [responseFields],
  line ["\t\tCreatedAt: createdAt.String,"],
  line ["\t\tUpdatedAt: updatedAt.String,"],
  line ["\t\x7d"],
  line [],
  line ["\treturn"],
  line ["\x7d"],
  line []]

/-- The statement that selects the rows that pass a filter. -/
def listQuery : List (List Piece) := [
  line ["func (c *", entity, "Repo) GetAll(ctx context.Context, req *", protoPackage, ".GetList",
    entity, "Request) (resp *", protoPackage, ".GetList", entity, "Response, err error) \x7b"],
  line [],
  line ["\tdbSpan, ctx := opentracing.StartSpanFromContext(ctx, \"storage.GetAll\")"],
  line ["\tdefer dbSpan.Finish()"],
  line [],
  line ["\tresp = &", protoPackage, ".GetList", entity, "Response\x7b\x7d"],
  line [],
  line ["\tvar ("],
  line ["\t\tquery  string"],
  line ["\t\tlimit  = \"\""],
  line ["\t\toffset = \" OFFSET 0 \""],
  line ["\t\tparams = make(map[string]interface\x7b\x7d)"],
  line ["\t\tfilter = \" WHERE TRUE \""],
  line ["\t\tsort   = \" ORDER BY created_at DESC\""],
  line ["\t)"],
  line [],
  line ["\tquery = \x60"],
  line ["\t\tSELECT"],
  line ["\t\t\tCOUNT(*) OVER(),"],
  line [selectColumns, ","],
  line ["\t\t\tTO_CHAR(created_at, 'YYYY-MM-DD HH24:MI:SS'),"],
  line ["\t\t\tTO_CHAR(updated_at, 'YYYY-MM-DD HH24:MI:SS')"],
  line ["\t\tFROM \"", table, "\""],
  line ["\t\x60"],
  line [],
  line ["\tif req.GetLimit() > 0 \x7b"],
  line ["\t\tlimit = \" LIMIT :limit\""],
  line ["\t\tparams[\"limit\"] = req.Limit"],
  line ["\t\x7d"],
  line [],
  line ["\tif req.GetOffset() > 0 \x7b"],
  line ["\t\toffset = \" OFFSET :offset\""],
  line ["\t\tparams[\"offset\"] = req.Offset"],
  line ["\t\x7d"],
  line [],
  line ["\tif req.GetSearch() != \"\" \x7b"],
  line ["\t\tfilter += \x60 AND \"", table, "\"::text ILIKE '%' || :search || '%' \x60"],
  line ["\t\tparams[\"search\"] = req.Search"],
  line ["\t\x7d"],
  line [],
  line ["\tfor key, val := range req.GetFilters().AsMap() \x7b"],
  line ["\t\tif !helper.CheckTypeAndEmpty(val) \x7b"],
  line ["\t\t\tfilter += fmt.Sprintf(\x60 AND %s = :%s\x60, key, key)"],
  line ["\t\t\tparams[key] = val"],
  line ["\t\t\x7d"],
  line ["\t\x7d"],
  line [],
  line ["\tquery += filter + sort + offset + limit"]]

/-- The loop that scans the selected rows. -/
def listRows : List (List Piece) := [
  line [],
  line ["\tquery, args := helper.ReplaceQueryParams(query, params)"],
  line ["\trows, err := c.db.Query(ctx, query, args...)"],
  line ["\tif err != nil \x7b"],
  line ["\t\treturn resp, err"],
  line ["\t\x7d"],
  line ["\tdefer rows.Close()"],
  line [],
  line ["\tfor rows.Next() \x7b"],
  line ["\t\tvar ("],
  line ["\t\t\tid        sql.NullString"],
  line [scanDeclarations],
  line ["\t\t\tcreatedAt sql.NullString"],
  line ["\t\t\tupdatedAt sql.NullString"],
  line ["\t\t)"],
  line [],
  line ["\t\terr := rows.Scan("],
  line ["\t\t\t&resp.Count,"],
  line ["\t\t\t&id,"],
  line [scanTargets],
  line ["\t\t\t&createdAt,"],
  line ["\t\t\t&updatedAt,"],
  line ["\t\t)"],
  line [],
  line ["\t\tif err != nil \x7b"],
  line ["\t\t\treturn resp, err"],
  line ["\t\t\x7d"],
  line [],
  line ["\t\tresp.", entityPlural, " = append(resp.", entityPlural, ", &", protoPackage, ".",
    entity, "\x7b"],
  line ["\t\t\tId:        id.String,"],
  line [responseFields],
  line ["\t\t\tCreatedAt: createdAt.String,"],
  line ["\t\t\tUpdatedAt: updatedAt.String,"],
  line ["\t\t\x7d)"],
  line ["\t\x7d"],
  line [],
  line ["\treturn"],
  line ["\x7d"],
  line []]

/-- The statement that updates a row. -/
def update : List (List Piece) := [
  line ["func (c *", entity, "Repo) Update(ctx context.Context, req *", protoPackage, ".Update",
    entity, "Request) (rowsAffected int64, err error) \x7b"],
  line [],
  line ["\tdbSpan, ctx := opentracing.StartSpanFromContext(ctx, \"storage.Update\")"],
  line ["\tdefer dbSpan.Finish()"],
  line [],
  line ["\tvar ("],
  line ["\t\tquery  string"],
  line ["\t\tparams map[string]interface\x7b\x7d"],
  line ["\t)"],
  line [],
  line ["\tquery = \x60"],
  line ["\t\tUPDATE"],
  line ["\t\t\t\"", table, "\""],
  line ["\t\tSET"],
  line [updateSet],
  line ["\t\t\tupdated_at = now()"],
  line ["\t\tWHERE"],
  line ["\t\t\tid = :id"],
  line ["\t\x60"],
  line ["\tparams = map[string]interface\x7b\x7d\x7b"],
  line ["\t\t\"id\": req.GetId(),"],
  line [updateBindings],
  line ["\t\x7d"],
  line [],
  line ["\tquery, args := helper.ReplaceQueryParams(query, params)"],
  line [],
  line ["\tresult, err := c.db.Exec(ctx, query, args...)"],
  line ["\tif err != nil \x7b"],
  line ["\t\treturn"],
  line ["\t\x7d"],
  line [],
  line ["\treturn result.RowsAffected(), nil"],
  line ["\x7d"],
  line []]

/-- The statement that updates some columns of a row. -/
def updatePatch : List (List Piece) := [
  line ["func (c *", entity,
    "Repo) UpdatePatch(ctx context.Context, req *models.UpdatePatchRequest) (rowsAffected int64, err error) \x7b"],
  line [],
  line ["\tdbSpan, ctx := opentracing.StartSpanFromContext(ctx, \"storage.UpdatePatch\")"],
  line ["\tdefer dbSpan.Finish()"],
  line [],
  line ["\tvar ("],
  line ["\t\tset   = \" SET \""],
  line ["\t\tind   = 0"],
  line ["\t\tquery string"],
  line ["\t)"],
  line [],
  line ["\tif len(req.Fields) == 0 \x7b"],
  line ["\t\terr = errors.New(\"no updates provided\")"],
  line ["\t\treturn"],
  line ["\t\x7d"],
  line [],
  line ["\treq.Fields[\"id\"] = req.Id"],
  line [],
  line ["\tfor key := range req.Fields \x7b"],
  line ["\t\tset += fmt.Sprintf(\" %s = :%s \", key, key)"],
  line ["\t\tif ind != len(req.Fields)-1 \x7b"],
  line ["\t\t\tset += \", \""],
  line ["\t\t\x7d"],
  line ["\t\tind++"],
  line ["\t\x7d"],
  line [],
  line ["\tquery = \x60"],
  line ["\t\tUPDATE"],
  line ["\t\t\t\"", table, "\""],
  line ["\t\x60 + set + \x60 , updated_at = now()"],
  line ["\t\tWHERE"],
  line ["\t\t\tid = :id"],
  line ["\t\x60"],
  line [],
  line ["\tquery, args := helper.ReplaceQueryParams(query, req.Fields)"],
  line [],
  line ["\tresult, err := c.db.Exec(ctx, query, args...)"],
  line ["\tif err != nil \x7b"],
  line ["\t\treturn"],
  line ["\t\x7d"],
  line [],
  line ["\treturn result.RowsAffected(), err"],
  line ["\x7d"],
  line []]

/-- The statement that deletes a row. -/
def delete : List (List Piece) := [
  line ["func (c *", entity, "Repo) Delete(ctx context.Context, req *", protoPackage, ".", entity,
    "PrimaryKey) error \x7b"],
  line [],
  line ["\tdbSpan, ctx := opentracing.StartSpanFromContext(ctx, \"storage.Delete\")"],
  line ["\tdefer dbSpan.Finish()"],
  line [],
  line ["\t_, err := c.db.Exec(ctx, \x60DELETE FROM \"", table, "\" WHERE id = $1\x60, req.Id)"],
  line ["\treturn err"],
  line ["\x7d"],
  line []]

/-- The repository of a table: its statements in SQL and what scans their rows. -/
def lines : List (List Piece) :=
  header ++ create ++ getByKey ++ listQuery ++ listRows ++ update ++ updatePatch ++ delete

/-- The interface of a table's repository. -/
def snippetLines : List (List Piece) := [
  line ["type ", entity, "RepoI interface \x7b"],
  line ["\tCreate(ctx context.Context, req *", protoPackage, ".Create", entity,
    "Request) (resp *", protoPackage, ".", entity, "PrimaryKey, err error)"],
  line ["\tGetByPKey(ctx context.Context, req *", protoPackage, ".", entity,
    "PrimaryKey) (resp *", protoPackage, ".", entity, ", err error)"],
  line ["\tGetAll(ctx context.Context, req *", protoPackage, ".GetList", entity,
    "Request) (resp *", protoPackage, ".GetList", entity, "Response, err error)"],
  line ["\tUpdate(ctx context.Context, req *", protoPackage, ".Update", entity,
    "Request) (rowsAffected int64, err error)"],
  line ["\tUpdatePatch(ctx context.Context, req *models.UpdatePatchRequest) (rowsAffected int64, err error)"],
  line ["\tDelete(ctx context.Context, req *", protoPackage, ".", entity, "PrimaryKey) error"],
  line ["\x7d"]]

end TableScaffold.Template.Builtin.Repository
