import TableScaffold.Template.Piece

/-!
# Built-in templates: HTTP handlers

The template of a file and the template of its snippet in the combined file, line
by line.  A template whose last line is empty ends with a line feed.
-/

namespace TableScaffold.Template.Builtin.Handler

open SlotName Piece

/-- The package and its imports. -/
def header : List (List Piece) := [
  line ["package handlers"],
  line [],
  line ["import ("],
  line ["\t\"context\""],
  line ["\t\"errors\""],
  line [],
  line ["\t\"github.com/gin-gonic/gin\""],
  line [],
  line ["\t\"", goModule, "/api/status_http\""],
  line ["\t\"", goModule, "/genproto/", protoPackage, "\""],
  line ["\t\"", goModule, "/pkg/util\""],
  line [")"],
  line []]

/-- The handler that creates a row. -/
def create : List (List Piece) := [
  line ["// Create", entity, " godoc"],
  line ["// @Security ApiKeyAuth"],
  line ["// @ID create_", table],
  line ["// @Router ", route, " [POST]"],
  line ["// @Summary Create ", entity],
  line ["// @Description Create ", entity],
  line ["// @Tags ", entity],
  line ["// @Accept json"],
  line ["// @Produce json"],
  line ["// @Param ", entity, " body ", protoPackage, ".Create", entity, "Request true \"Create",
    entity, "RequestBody\""],
  line ["// @Success 201 \x7bobject\x7d status_http.Response\x7bdata=", protoPackage, ".", entity,
    "\x7d \"", entity, " data\""],
  line ["// @Response 400 \x7bobject\x7d status_http.Response\x7bdata=string\x7d \"Bad Request\""],
  line ["// @Failure 500 \x7bobject\x7d status_http.Response\x7bdata=string\x7d \"Server Error\""],
  line ["func (h *Handler) Create", entity, "(c *gin.Context) \x7b"],
  line [],
  line ["\tvar ", entityCamel, " ", protoPackage, ".Create", entity, "Request"],
  line ["\terr := c.ShouldBindJSON(&", entityCamel, ")"],
  line ["\tif err != nil \x7b"],
  line ["\t\th.HandleResponse(c, status_http.BadRequest, err.Error())"],
  line ["\t\treturn"],
  line ["\t\x7d"],
  line [],
  line ["\tresponse, err := h.services.", entity, "Service().Create", entity, "("],
  line ["\t\tcontext.Background(),"],
  line ["\t\t&", entityCamel, ","],
  line ["\t)"],
  line ["\tif err != nil \x7b"],
  line ["\t\th.HandleResponse(c, status_http.GRPCError, err.Error())"],
  line ["\t\treturn"],
  line ["\t\x7d"],
  line [],
  line ["\th.HandleResponse(c, status_http.Created, response)"],
  line ["\x7d"],
  line []]

/-- The handler that answers one row. -/
def getSingle : List (List Piece) := [
  line ["// GetSingle", entity, " godoc"],
  line ["// @Security ApiKeyAuth"],
  line ["// @ID get_", table, "_by_id"],
  line ["// @Router ", route, "/", openBrace, idParam, closeBrace, " [GET]"],
  line ["// @Summary Get single ", entity],
  line ["// @Description Get single ", entity],
  line ["// @Tags ", entity],
  line ["// @Accept json"],
  line ["// @Produce json"],
  line ["// @Param ", idParam, " path string true \"", idParam, "\""],
  line ["// @Success 200 \x7bobject\x7d status_http.Response\x7bdata=", protoPackage, ".", entity,
    "\x7d \"", entity, "Body\""],
  line ["// @Response 400 \x7bobject\x7d status_http.Response\x7bdata=string\x7d \"Invalid Argument\""],
  line ["// @Failure 500 \x7bobject\x7d status_http.Response\x7bdata=string\x7d \"Server Error\""],
  line ["func (h *Handler) GetSingle", entity, "(c *gin.Context) \x7b"],
  line [],
  line ["\tvar ", entityCamel, "Id = c.Param(\"", idParam, "\")"],
  line ["\tif !util.IsValidUUID(", entityCamel, "Id) \x7b"],
  line ["\t\th.HandleResponse(c, status_http.InvalidArgument, \"", table,
    " id is an invalid uuid\")"],
  line ["\t\treturn"],
  line ["\t\x7d"],
  line [],
  line ["\tresponse, err := h.services.", entity, "Service().GetByID", entity, "("],
  line ["\t\tcontext.Background(),"],
  line ["\t\t&", protoPackage, ".", entity, "PrimaryKey\x7bId: ", entityCamel, "Id\x7d,"],
  line ["\t)"],
  line ["\tif err != nil \x7b"],
  line ["\t\th.HandleResponse(c, status_http.GRPCError, err.Error())"],
  line ["\t\treturn"],
  line ["\t\x7d"],
  line ["\tif response == nil \x7b"],
  line ["\t\terr := errors.New(\"not Found\")"],
  line ["\t\th.HandleResponse(c, status_http.NoContent, err.Error())"],
  line ["\t\treturn"],
  line ["\t\x7d"],
  line [],
  line ["\th.HandleResponse(c, status_http.OK, response)"],
  line ["\x7d"],
  line []]

/-- The handler that answers the rows that pass a filter. -/
def getList : List (List Piece) := [
  line ["// Get", entity, "List godoc"],
  line ["// @Security ApiKeyAuth"],
  line ["// @ID get_", table, "_list"],
  line ["// @Router ", route, " [GET]"],
  line ["// @Summary Get ", entity, " list"],
  line ["// @Description Get ", entity, " list"],
  line ["// @Tags ", entity],
  line ["// @Accept json"],
  line ["// @Produce json"],
  line ["// @Param filters query ", protoPackage, ".GetList", entity, "Request true \"filters\""],
  line ["// @Success 200 \x7bobject\x7d status_http.Response\x7bdata=", protoPackage, ".GetList",
    entity, "Response\x7d \"", entity, "Body\""],
  line ["// @Response 400 \x7bobject\x7d status_http.Response\x7bdata=string\x7d \"Invalid Argument\""],
  line ["// @Failure 500 \x7bobject\x7d status_http.Response\x7bdata=string\x7d \"Server Error\""],
  line ["func (h *Handler) Get", entity, "List(c *gin.Context) \x7b"],
  line [],
  line ["\toffset, err := h.GetOffsetParam(c)"],
  line ["\tif err != nil \x7b"],
  line ["\t\th.HandleResponse(c, status_http.InvalidArgument, err.Error())"],
  line ["\t\treturn"],
  line ["\t\x7d"],
  line [],
  line ["\tlimit, err := h.GetLimitParam(c)"],
  line ["\tif err != nil \x7b"],
  line ["\t\th.HandleResponse(c, status_http.InvalidArgument, err.Error())"],
  line ["\t\treturn"],
  line ["\t\x7d"],
  line [],
  line ["\tresponse, err := h.services.", entity, "Service().GetList", entity, "("],
  line ["\t\tcontext.Background(),"],
  line ["\t\t&", protoPackage, ".GetList", entity, "Request\x7b"],
  line ["\t\t\tLimit:  int64(limit),"],
  line ["\t\t\tOffset: int64(offset),"],
  line ["\t\t\tSearch: c.Query(\"search\"),"],
  line ["\t\t\x7d,"],
  line ["\t)"],
  line [],
  line ["\tif err != nil \x7b"],
  line ["\t\th.HandleResponse(c, status_http.GRPCError, err.Error())"],
  line ["\t\treturn"],
  line ["\t\x7d"],
  line [],
  line ["\th.HandleResponse(c, status_http.OK, response)"],
  line ["\x7d"],
  line []]

/-- The handler that changes a row. -/
def update : List (List Piece) := [
  line ["// Update", entity, " godoc"],
  line ["// @Security ApiKeyAuth"],
  line ["// @ID update_", table],
  line ["// @Router ", route, " [PUT]"],
  line ["// @Summary Update ", entity],
  line ["// @Description Update ", entity],
  line ["// @Tags ", entity],
  line ["// @Accept json"],
  line ["// @Produce json"],
  line ["// @Param ", entity, " body ", protoPackage, ".Update", entity, "Request true \"Update",
    entity, "RequestBody\""],
  line ["// @Success 200 \x7bobject\x7d status_http.Response\x7bdata=", protoPackage, ".", entity,
    "\x7d \"", entity, " data\""],
  line ["// @Response 400 \x7bobject\x7d status_http.Response\x7bdata=string\x7d \"Bad Request\""],
  line ["// @Failure 500 \x7bobject\x7d status_http.Response\x7bdata=string\x7d \"Server Error\""],
  line ["func (h *Handler) Update", entity, "(c *gin.Context) \x7b"],
  line [],
  line ["\tvar update", entity, " ", protoPackage, ".Update", entity, "Request"],
  line ["\terr := c.ShouldBindJSON(&update", entity, ")"],
  line ["\tif err != nil \x7b"],
  line ["\t\th.HandleResponse(c, status_http.BadRequest, err.Error())"],
  line ["\t\treturn"],
  line ["\t\x7d"],
  line [],
  line ["\tresponse, err := h.services.", entity, "Service().Update", entity, "("],
  line ["\t\tcontext.Background(),"],
  line ["\t\t&update", entity, ","],
  line ["\t)"],
  line [],
  line ["\tif err != nil \x7b"],
  line ["\t\th.HandleResponse(c, status_http.GRPCError, err.Error())"],
  line ["\t\treturn"],
  line ["\t\x7d"],
  line [],
  line ["\th.HandleResponse(c, status_http.Accepted, response)"],
  line ["\x7d"],
  line []]

/-- The handler that deletes a row. -/
def delete : List (List Piece) := [
  line ["// Delete", entity, " godoc"],
  line ["// @Security ApiKeyAuth"],
  line ["// @ID delete_", table],
  line ["// @Router ", route, "/", openBrace, idParam, closeBrace, " [DELETE]"],
  line ["// @Summary Delete ", entity],
  line ["// @Description Delete ", entity],
  line ["// @Tags ", entity],
  line ["// @Accept json"],
  line ["// @Produce json"],
  line ["// @Param ", idParam, " path string true \"", idParam, "\""],
  line ["// @Success 204"],
  line ["// @Response 400 \x7bobject\x7d status_http.Response\x7bdata=string\x7d \"Invalid Argument\""],
  line ["// @Failure 500 \x7bobject\x7d status_http.Response\x7bdata=string\x7d \"Server Error\""],
  line ["func (h *Handler) Delete", entity, "(c *gin.Context) \x7b"],
  line [],
  line ["\tvar ", entityCamel, "Id = c.Param(\"", idParam, "\")"],
  line ["\tif !util.IsValidUUID(", entityCamel, "Id) \x7b"],
  line ["\t\th.HandleResponse(c, status_http.InvalidArgument, \"", table,
    " id is an invalid uuid\")"],
  line ["\t\treturn"],
  line ["\t\x7d"],
  line [],
  line ["\tresponse, err := h.services.", entity, "Service().Delete", entity, "("],
  line ["\t\tcontext.Background(),"],
  line ["\t\t&", protoPackage, ".", entity, "PrimaryKey\x7bId: ", entityCamel, "Id\x7d,"],
  line ["\t)"],
  line [],
  line ["\tif err != nil \x7b"],
  line ["\t\th.HandleResponse(c, status_http.GRPCError, err.Error())"],
  line ["\t\treturn"],
  line ["\t\x7d"],
  line [],
  line ["\th.HandleResponse(c, status_http.NoContent, response)"],
  line ["\x7d"],
  line []]

/-- The HTTP handlers of a table, which call its service. -/
def lines : List (List Piece) :=
  header ++ create ++ getSingle ++ getList ++ update ++ delete

/-- The routes of a table's handlers. -/
def snippetLines : List (List Piece) := [
  line ["// ", entity, " .."],
  line ["r.POST(\"", route, "\", h.Create", entity, ")"],
  line ["r.GET(\"", route, "/:", idParam, "\", h.GetSingle", entity, ")"],
  line ["r.GET(\"", route, "\", h.Get", entity, "List)"],
  line ["r.PUT(\"", route, "\", h.Update", entity, ")"],
  line ["r.DELETE(\"", route, "/:", idParam, "\", h.Delete", entity, ")"],
  line []]

end TableScaffold.Template.Builtin.Handler
